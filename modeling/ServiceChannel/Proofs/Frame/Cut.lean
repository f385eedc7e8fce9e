import ServiceChannel.Frame

/-!
# Cutting a stream into frames

What stands at the front of a buffer, as an equation on bytes, and how cutting a buffer goes on when
more bytes arrive.

- `split_eq_complete_iff`: a payload is found exactly where its frame stands.
- `cut_frames_append`: the frames of payloads are cut off one by one, whatever follows them.
- `cut_append`: cutting a stream is cutting its front and then what the front left, with the rest
  of the stream behind it.
- `eq_frames_append_rest`: nothing is lost; the payloads in their frames, with what is left, are the
  stream.
-/

namespace ServiceChannel.Frame

variable {max : Nat}

/-! ## Headers -/

theorem bigEndian_toNat_header (a b c d : UInt8) :
    Bytes.bigEndian headerLength (Bytes.toNat [a, b, c, d]) = [a, b, c, d] := by
  have ha := a.toNat_lt
  have hb := b.toNat_lt
  have hc := c.toNat_lt
  have hd := d.toNat_lt
  simp only [headerLength, Bytes.bigEndian, List.nil_append, List.cons_append, Bytes.toNat,
    List.foldl, List.cons.injEq, and_true, ← UInt8.toNat_inj, UInt8.toNat_ofNat']
  omega

/-- No header announces more than there is room for. -/
theorem toNat_header_le (a b c d : UInt8) : Bytes.toNat [a, b, c, d] ≤ lengthLimit := by
  have ha := a.toNat_lt
  have hb := b.toNat_lt
  have hc := c.toNat_lt
  have hd := d.toNat_lt
  simp only [Bytes.toNat, List.foldl, lengthLimit, UInt32.size]
  omega

@[simp] theorem length_frame (payload : Bytes) :
    (frame payload).length = headerLength + payload.length := by
  simp [frame]

/-- The four bytes at the front of a frame. -/
theorem frame_eq_cons (payload : Bytes) (short : payload.length ≤ lengthLimit) :
    ∃ a b c d, frame payload = a :: b :: c :: d :: payload ∧
      Bytes.toNat [a, b, c, d] = payload.length :=
  ⟨_, _, _, _, rfl, toNat_header_of_le short⟩

/-! ## The front of a buffer -/

theorem split_eq_complete_iff {buffer payload rest : Bytes} :
    split max buffer = .complete payload rest ↔
      buffer = frame payload ++ rest ∧ payload.length ≤ max ∧
        payload.length ≤ lengthLimit := by
  constructor
  · intro h
    match buffer, h with
    | a :: b :: c :: d :: tail, h =>
      simp only [split] at h
      split at h
      · cases h
      · rename_i fits
        split at h
        · rename_i found
          cases h
          obtain ⟨rfl, size⟩ := Bytes.split?_eq_some_iff.1 found
          have short := toNat_header_le a b c d
          refine ⟨?_, by omega, by omega⟩
          rw [frame, size, bigEndian_toNat_header]
          rfl
        · cases h
    | [], h => cases h
    | [_], h => cases h
    | [_, _], h => cases h
    | [_, _, _], h => cases h
  · rintro ⟨rfl, fits, short⟩
    exact split_frame rest fits short

/-- A header that announces too much is judged without what follows it. -/
theorem split_append_of_oversized {buffer : Bytes} {size : Nat} (more : Bytes)
    (h : split max buffer = .oversized size) : split max (buffer ++ more) = .oversized size := by
  match buffer, h with
  | a :: b :: c :: d :: tail, h =>
    simp only [List.cons_append, split] at h ⊢
    split at h
    · rename_i tooLarge
      rw [if_pos tooLarge]
      exact h
    · split at h <;> cases h
  | [], h => cases h
  | [_], h => cases h
  | [_, _], h => cases h
  | [_, _, _], h => cases h

theorem split_append_of_complete {buffer payload rest : Bytes} (more : Bytes)
    (h : split max buffer = .complete payload rest) :
    split max (buffer ++ more) = .complete payload (rest ++ more) := by
  obtain ⟨rfl, fits⟩ := split_eq_complete_iff.1 h
  exact split_eq_complete_iff.2 ⟨by rw [List.append_assoc], fits⟩

/-! ## Cutting -/

/-- Induction along the frames at the front of a buffer. -/
theorem splitInduction (max : Nat) {motive : Bytes → Prop}
    (incomplete : ∀ buffer, split max buffer = .incomplete → motive buffer)
    (oversized : ∀ buffer size, split max buffer = .oversized size → motive buffer)
    (complete : ∀ buffer payload rest, split max buffer = .complete payload rest →
      motive rest → motive buffer) (buffer : Bytes) : motive buffer := by
  induction size : buffer.length using Nat.strongRecOn generalizing buffer with
  | ind size ih =>
    subst size
    cases found : split max buffer with
    | incomplete => exact incomplete buffer found
    | oversized announced => exact oversized buffer announced found
    | complete payload rest =>
      exact complete buffer payload rest found (ih _ (split_length_lt found) rest rfl)

theorem cutAfter_eq (seen : List Bytes) (buffer : Bytes) :
    cutAfter max seen buffer =
      { cut max buffer with payloads := seen.reverse ++ (cut max buffer).payloads } := by
  unfold cut
  induction buffer using splitInduction max generalizing seen with
  | incomplete buffer found =>
    rw [cutAfter, cutAfter]
    split <;> simp_all
  | oversized buffer size found =>
    rw [cutAfter, cutAfter]
    split <;> simp_all
  | complete buffer payload rest found ih =>
    rw [cutAfter, cutAfter]
    split <;> rename_i found' <;> rw [found] at found' <;> cases found'
    rw [ih (payload :: seen), ih [payload]]
    simp

theorem cut_of_incomplete {buffer : Bytes} (h : split max buffer = .incomplete) :
    cut max buffer = ⟨[], .incomplete, buffer⟩ := by
  rw [cut, cutAfter]
  split <;> simp_all

theorem cut_of_oversized {buffer : Bytes} {size : Nat} (h : split max buffer = .oversized size) :
    cut max buffer = ⟨[], .oversized size, buffer⟩ := by
  rw [cut, cutAfter]
  split <;> simp_all

theorem cut_of_complete {buffer payload rest : Bytes}
    (h : split max buffer = .complete payload rest) :
    cut max buffer = { cut max rest with payloads := payload :: (cut max rest).payloads } := by
  rw [cut, cutAfter]
  split <;> rename_i found <;> rw [h] at found <;> cases found
  rw [cutAfter_eq]
  rfl

@[simp] theorem cut_nil : cut max [] = ⟨[], .incomplete, []⟩ := cut_of_incomplete rfl

/-- Where cutting stops, there is nothing more to cut. -/
theorem split_rest (max : Nat) (buffer : Bytes) :
    split max (cut max buffer).rest =
      match (cut max buffer).tail with
      | .incomplete => .incomplete
      | .oversized size => .oversized size := by
  induction buffer using splitInduction max with
  | incomplete buffer found =>
    rw [cut_of_incomplete found]
    exact found
  | oversized buffer size found =>
    rw [cut_of_oversized found]
    exact found
  | complete buffer payload rest found ih =>
    rw [cut_of_complete found]
    exact ih

theorem split_rest_of_incomplete {buffer : Bytes} (pending : (cut max buffer).tail = .incomplete) :
    split max (cut max buffer).rest = .incomplete := by
  rw [split_rest, pending]

theorem cut_append {front : Bytes} (more : Bytes) (pending : (cut max front).tail = .incomplete) :
    cut max (front ++ more) =
      let later := cut max ((cut max front).rest ++ more)
      { later with payloads := (cut max front).payloads ++ later.payloads } := by
  induction front using splitInduction max with
  | incomplete front found =>
    rw [cut_of_incomplete found]
    rfl
  | oversized front size found =>
    rw [cut_of_oversized found] at pending
    cases pending
  | complete front payload rest found ih =>
    rw [cut_of_complete found] at pending
    rw [cut_of_complete found, cut_of_complete (split_append_of_complete more found), ih pending]
    rfl

/-- Behind a header that announces too much, nothing matters. -/
theorem cut_append_of_oversized {front : Bytes} {size : Nat} (more : Bytes)
    (stuck : (cut max front).tail = .oversized size) :
    cut max (front ++ more) =
      { cut max front with rest := (cut max front).rest ++ more } := by
  induction front using splitInduction max with
  | incomplete front found =>
    rw [cut_of_incomplete found] at stuck
    cases stuck
  | oversized front size' found =>
    rw [cut_of_oversized found, cut_of_oversized (split_append_of_oversized more found)]
  | complete front payload rest found ih =>
    rw [cut_of_complete found] at stuck
    rw [cut_of_complete found, cut_of_complete (split_append_of_complete more found), ih stuck]

/-! ## Streams of frames -/

theorem cut_frames_append {payloads : List Bytes}
    (fits : ∀ payload ∈ payloads, payload.length ≤ max)
    (short : ∀ payload ∈ payloads, payload.length ≤ lengthLimit) (rest : Bytes) :
    cut max (payloads.flatMap frame ++ rest) =
      { cut max rest with payloads := payloads ++ (cut max rest).payloads } := by
  induction payloads with
  | nil => rfl
  | cons payload payloads ih =>
    have found := split_frame (payloads.flatMap frame ++ rest) (fits payload (by simp))
      (short payload (by simp))
    rw [List.flatMap_cons, List.append_assoc, cut_of_complete found,
      ih (fun p mem => fits p (by simp [mem])) (fun p mem => short p (by simp [mem]))]
    rfl

theorem eq_frames_append_rest (max : Nat) (buffer : Bytes) :
    buffer = (cut max buffer).payloads.flatMap frame ++ (cut max buffer).rest := by
  induction buffer using splitInduction max with
  | incomplete buffer found =>
    rw [cut_of_incomplete found]
    rfl
  | oversized buffer size found =>
    rw [cut_of_oversized found]
    rfl
  | complete buffer payload rest found ih =>
    obtain ⟨rfl, -⟩ := split_eq_complete_iff.1 found
    rw [cut_of_complete found, List.flatMap_cons, List.append_assoc, ← ih]

end ServiceChannel.Frame
