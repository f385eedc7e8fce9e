import ServiceChannel.Proofs.Frame.Cut

/-!
# Draining a buffer

A buffer is drained by pulling one frame after the other off its front. What a pull gives is decided
by the bytes at the front: a header that announces too much is refused before its payload is there,
a complete frame is taken and nothing of what follows it, and anything else waits.

- `pull`: one look at the front of a buffer, and what it leaves: `try_decode_frame`.
- `pull_error_iff`, `pull_some_iff`, `pull_none_iff`: when it gives what.
- `pull_append`: bytes that come later change nothing that a pull gives already.
- `Drains`: pulls that follow one another; each takes a header at least, and where they end is
  decided (`Drains.eq_cut`).
- `length_lt_of_incomplete`: what waits is shorter than a frame can be.
-/

namespace ServiceChannel.Frame

variable {max : Nat} {buffer payload rest : Bytes}

/-! ## One pull -/

/-- The length that the first four bytes of a buffer announce. -/
def announced (buffer : Bytes) : Nat := Bytes.toNat (buffer.take headerLength)

/-- Looks for a frame at the front of a buffer (`try_decode_frame`): gives its payload if it is
complete, or refuses its header, and leaves the rest. -/
def pull (max : Nat) (buffer : Bytes) : Except MessageError (Option Bytes) × Bytes :=
  match split max buffer with
  | .incomplete => (.ok none, buffer)
  | .oversized size => (.error (.tooLarge size max), buffer)
  | .complete payload rest => (.ok (some payload), rest)

theorem split_of_short (short : buffer.length < headerLength) :
    split max buffer = .incomplete := by
  match buffer with
  | [] | [_] | [_, _] | [_, _, _] => rfl
  | _ :: _ :: _ :: _ :: rest =>
    simp only [headerLength, List.length_cons] at short
    omega

/-- Behind a header, the front of a buffer is judged by the length that is announced. -/
theorem split_of_header (header : headerLength ≤ buffer.length) :
    split max buffer =
      if max < announced buffer then .oversized (announced buffer)
      else match Bytes.split? (announced buffer) (buffer.drop headerLength) with
        | some (payload, rest) => .complete payload rest
        | none => .incomplete := by
  match buffer with
  | _ :: _ :: _ :: _ :: _ => rfl
  | [] | [_] | [_, _] | [_, _, _] => simp [headerLength] at header

theorem split_eq_oversized_iff {size : Nat} :
    split max buffer = .oversized size ↔
      headerLength ≤ buffer.length ∧ max < announced buffer ∧ size = announced buffer := by
  by_cases header : headerLength ≤ buffer.length
  · rw [split_of_header header]
    by_cases large : max < announced buffer
    · simp [header, large, eq_comm]
    · rw [if_neg large]
      cases Bytes.split? (announced buffer) (buffer.drop headerLength) <;> simp [large]
  · rw [split_of_short (Nat.lt_of_not_le header)]
    simp [header]

theorem split_eq_incomplete_iff :
    split max buffer = .incomplete ↔
      buffer.length < headerLength ∨
        announced buffer ≤ max ∧ buffer.length < headerLength + announced buffer := by
  by_cases header : headerLength ≤ buffer.length
  · rw [split_of_header header]
    by_cases large : max < announced buffer
    · rw [if_pos large]
      simp only [reduceCtorEq, false_iff]
      omega
    · rw [if_neg large]
      cases found : Bytes.split? (announced buffer) (buffer.drop headerLength) with
      | none =>
        have missing := Bytes.split?_eq_none_iff.1 found
        rw [List.length_drop] at missing
        simp only [true_iff]
        omega
      | some cut =>
        have there : ¬ Bytes.split? (announced buffer) (buffer.drop headerLength) = none := by
          simp [found]
        rw [Bytes.split?_eq_none_iff, List.length_drop] at there
        simp only [reduceCtorEq, false_iff]
        omega
  · have short := Nat.lt_of_not_le header
    simp [split_of_short short, short]

/-- What waits for more bytes is shorter than a frame can be. -/
theorem length_lt_of_incomplete (waits : split max buffer = .incomplete) :
    buffer.length < headerLength + max := by
  have short := split_eq_incomplete_iff.1 waits
  omega

theorem pull_error_iff {error : MessageError} :
    pull max buffer = (.error error, rest) ↔
      headerLength ≤ buffer.length ∧ max < announced buffer ∧
        error = .tooLarge (announced buffer) max ∧ rest = buffer := by
  have refuses : pull max buffer = (.error error, rest) ↔
      ∃ size, split max buffer = .oversized size ∧ error = .tooLarge size max ∧ rest = buffer := by
    unfold pull
    cases split max buffer <;> simp [eq_comm]
  rw [refuses]
  constructor
  · rintro ⟨size, found, told⟩
    obtain ⟨header, large, rfl⟩ := split_eq_oversized_iff.1 found
    exact ⟨header, large, told⟩
  · rintro ⟨header, large, told⟩
    exact ⟨_, split_eq_oversized_iff.2 ⟨header, large, rfl⟩, told⟩

theorem pull_some_iff :
    pull max buffer = (.ok (some payload), rest) ↔
      buffer = Bytes.bigEndian headerLength payload.length ++ payload ++ rest ∧
        payload.length ≤ max ∧ payload.length ≤ lengthLimit := by
  rw [← frame, ← split_eq_complete_iff]
  unfold pull
  cases split max buffer <;> simp

theorem pull_none_iff :
    pull max buffer = (.ok none, rest) ↔
      (buffer.length < headerLength ∨
        announced buffer ≤ max ∧ buffer.length < headerLength + announced buffer) ∧
      rest = buffer := by
  rw [← @split_eq_incomplete_iff max]
  unfold pull
  cases split max buffer <;> simp [eq_comm]

/-- What a pull gives is given whatever comes behind, which stays behind what is left. -/
theorem pull_append (more : Bytes) (given : (pull max buffer).1 ≠ .ok none) :
    pull max (buffer ++ more) = ((pull max buffer).1, (pull max buffer).2 ++ more) := by
  unfold pull at given ⊢
  cases found : split max buffer with
  | incomplete => simp [found] at given
  | oversized size => simp [split_append_of_oversized more found]
  | complete payload rest => simp [split_append_of_complete more found]

/-! ## Draining -/

/-- Pulls that follow one another, each giving a payload, and what they leave. -/
inductive Drains (max : Nat) : (buffer : Bytes) → (payloads : List Bytes) → (left : Bytes) → Prop
  | stop (buffer : Bytes) : Drains max buffer [] buffer
  | next {buffer payload rest left : Bytes} {payloads : List Bytes}
    (pulled : pull max buffer = (.ok (some payload), rest))
    (later : Drains max rest payloads left) : Drains max buffer (payload :: payloads) left

namespace Drains

variable {payloads : List Bytes} {left : Bytes}

/-- Nothing is lost: each pull takes a header and its payload. -/
theorem length_eq (drains : Drains max buffer payloads left) :
    headerLength * payloads.length + payloads.flatten.length + left.length = buffer.length := by
  induction drains with
  | stop buffer => simp
  | next pulled later ih =>
    obtain ⟨rfl, -⟩ := pull_some_iff.1 pulled
    simp only [List.length_cons, List.flatten_cons, List.length_append, Bytes.length_bigEndian]
    rw [← ih, Nat.mul_succ]
    omega

/-- A buffer can be drained as far as it is cut. -/
theorem of_cut (max : Nat) (buffer : Bytes) :
    Drains max buffer (cut max buffer).payloads (cut max buffer).rest := by
  induction buffer using splitInduction max with
  | incomplete buffer found =>
    rw [cut_of_incomplete found]
    exact .stop buffer
  | oversized buffer size found =>
    rw [cut_of_oversized found]
    exact .stop buffer
  | complete buffer payload rest found ih =>
    rw [cut_of_complete found]
    exact .next (by rw [pull, found]) ih

/-- However far it is drained, cutting goes on from there. -/
theorem cut_eq (drains : Drains max buffer payloads left) :
    cut max buffer =
      { cut max left with payloads := payloads ++ (cut max left).payloads } := by
  induction drains with
  | stop buffer => rfl
  | @next buffer payload rest left payloads pulled later ih =>
    have found : split max buffer = .complete payload rest :=
      split_eq_complete_iff.2 (pull_some_iff.1 pulled)
    rw [cut_of_complete found, ih]
    rfl

/-- Draining that can go no further ends where cutting ends. -/
theorem eq_cut (drains : Drains max buffer payloads left)
    (ends : ∀ payload, (pull max left).1 ≠ .ok (some payload)) :
    payloads = (cut max buffer).payloads ∧ left = (cut max buffer).rest := by
  have last : (cut max left).payloads = [] ∧ (cut max left).rest = left := by
    cases found : split max left with
    | incomplete => simp [cut_of_incomplete found]
    | oversized size => simp [cut_of_oversized found]
    | complete payload rest =>
      exact absurd (by rw [pull, found]) (ends payload)
  rw [drains.cut_eq, last.1, last.2, List.append_nil]
  exact ⟨rfl, rfl⟩

end Drains

/-- Where cutting ends, a pull gives no payload. -/
theorem pull_rest (max : Nat) (buffer payload : Bytes) :
    (pull max (cut max buffer).rest).1 ≠ .ok (some payload) := by
  unfold pull
  rw [split_rest]
  cases (cut max buffer).tail <;> simp

end ServiceChannel.Frame
