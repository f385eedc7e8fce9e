import ServiceChannel.Bytes
import ServiceChannel.Message.Error

/-!
# Frames

A payload travels behind its length in four bytes, most significant first. A stream is cut into
payloads one frame at a time; a frame that is not complete yet stays where it is.

- `toNat_header`: what a header announces, whatever the length.
- `split_frame`: a frame that fits the limit is cut off exactly, whatever follows it.
- `split_length_lt`: a cut takes at least the header.
-/

namespace ServiceChannel.Frame

/-- Bytes of a header. -/
def headerLength : Nat := 4

/-- The length that a header can announce at most. -/
def lengthLimit : Nat := UInt32.size - 1

/-- The payload behind its length. The header holds the low thirty-two bits of the length. -/
def frame (payload : Bytes) : Bytes := Bytes.bigEndian headerLength payload.length ++ payload

/-- The frame of a payload that fits the limit (`encode_frame`). -/
def encode (max : Nat) (payload : Bytes) : Except MessageError Bytes :=
  let size := payload.length
  if max < size then .error (.tooLarge size max) else .ok (frame payload)

/-- What the front of a buffer is. -/
inductive Split where
  /-- Part of a frame: more bytes are needed. -/
  | incomplete
  /-- A frame, and what follows it. -/
  | complete (payload rest : Bytes)
  /-- A header that announces more than the limit. -/
  | oversized (size : Nat)
  deriving DecidableEq

/-- Looks for a frame at the front of a buffer (`try_decode_frame`). The announced length is judged
as soon as the header is there. -/
def split (max : Nat) : Bytes → Split
  | a :: b :: c :: d :: rest =>
    let size := Bytes.toNat [a, b, c, d]
    if max < size then .oversized size
    else match Bytes.split? size rest with
      | some (payload, rest) => .complete payload rest
      | none => .incomplete
  | _ => .incomplete

theorem split_length_lt {max : Nat} {buffer payload rest : Bytes}
    (h : split max buffer = .complete payload rest) : rest.length < buffer.length := by
  match buffer, h with
  | a :: b :: c :: d :: tail, h =>
    simp only [split] at h
    split at h
    · cases h
    · split at h
      · rename_i found
        cases h
        obtain ⟨rfl, -⟩ := Bytes.split?_eq_some_iff.1 found
        simp only [List.length_cons, List.length_append]
        omega
      · cases h
  | [], h => cases h
  | [_], h => cases h
  | [_, _], h => cases h
  | [_, _, _], h => cases h

/-- How cutting a buffer ended. -/
inductive Tail where
  /-- In part of a frame. -/
  | incomplete
  /-- In a header that announces more than the limit. -/
  | oversized (size : Nat)
  deriving DecidableEq

/-- What cutting a buffer as far as possible gives: payloads, how it ended, and what is left. -/
structure Cut where
  payloads : List Bytes
  tail : Tail
  rest : Bytes
  deriving DecidableEq

/-- Cuts frames off until no complete one is left, after those in `seen`, the newest first. -/
def cutAfter (max : Nat) (seen : List Bytes) (buffer : Bytes) : Cut :=
  match _split : split max buffer with
  | .incomplete => ⟨seen.reverse, .incomplete, buffer⟩
  | .oversized size => ⟨seen.reverse, .oversized size, buffer⟩
  | .complete payload rest => cutAfter max (payload :: seen) rest
termination_by buffer.length
decreasing_by exact split_length_lt _split

/-- Cuts a buffer into frames as far as possible. -/
def cut (max : Nat) (buffer : Bytes) : Cut := cutAfter max [] buffer

/-! ## Laws -/

theorem encode_of_fits {max : Nat} {payload : Bytes} (fits : payload.length ≤ max) :
    encode max payload = .ok (frame payload) := if_neg (Nat.not_lt.2 fits)

theorem encode_of_oversized {max : Nat} {payload : Bytes} (large : max < payload.length) :
    encode max payload = .error (.tooLarge payload.length max) := if_pos large

/-- A header announces the low thirty-two bits of the length. -/
theorem toNat_header (size : Nat) :
    Bytes.toNat (Bytes.bigEndian headerLength size) = size % UInt32.size := by
  simp only [headerLength, UInt32.size, Bytes.bigEndian, List.nil_append, List.cons_append,
    Bytes.toNat, List.foldl, UInt8.toNat_ofNat']
  omega

/-- A header announces what the header has room for. -/
theorem toNat_header_of_le {size : Nat} (fits : size ≤ lengthLimit) :
    Bytes.toNat (Bytes.bigEndian headerLength size) = size := by
  rw [toNat_header]
  exact Nat.mod_eq_of_lt (Nat.lt_of_le_pred (by decide) fits)

theorem split_frame {max : Nat} {payload : Bytes} (rest : Bytes) (fits : payload.length ≤ max)
    (short : payload.length ≤ lengthLimit) :
    split max (frame payload ++ rest) = .complete payload rest := by
  have header : ∃ a b c d, Bytes.bigEndian headerLength payload.length = [a, b, c, d] :=
    ⟨_, _, _, _, rfl⟩
  obtain ⟨a, b, c, d, header⟩ := header
  have size : Bytes.toNat [a, b, c, d] = payload.length := header ▸ toNat_header_of_le short
  have cut : Bytes.split? payload.length (payload ++ rest) = some (payload, rest) :=
    Bytes.split?_eq_some_iff.2 ⟨rfl, rfl⟩
  simp only [frame, header, List.cons_append, List.nil_append, split, size]
  rw [if_neg (by omega), cut]

end ServiceChannel.Frame
