/-!
# Bytes

Octet strings as lists, with the two readings every other module needs: as UTF-8 text and as
big-endian numbers.

- `Bytes.text?` accepts exactly the encodings of strings (`text?_ofText`).
- `Bytes.split?` cuts a front of a given length off, and looks no further than that length.
-/

namespace ServiceChannel

/-- A string of octets. -/
abbrev Bytes := List UInt8

namespace Bytes

/-! ## Text -/

/-- The UTF-8 encoding of a text. -/
def ofText (text : String) : Bytes := text.toByteArray.data.toList

/-- The text that the bytes encode; `none` when they are not UTF-8. -/
def text? (bytes : Bytes) : Option String := String.fromUTF8? ⟨bytes.toArray⟩

@[simp] theorem text?_ofText (text : String) : text? (ofText text) = some text := by
  have valid : text.toByteArray.IsValidUTF8 := text.isValidUTF8
  simp [text?, ofText, String.fromUTF8?, String.fromUTF8, valid]

/-! ## Cutting -/

/-- The first `count` bytes and what follows them; `none` when there are fewer. -/
def split? (count : Nat) (bytes : Bytes) : Option (Bytes × Bytes) :=
  let front := bytes.take count
  if front.length = count then some (front, bytes.drop count) else none

theorem split?_eq_some_iff {count : Nat} {bytes front rest : Bytes} :
    split? count bytes = some (front, rest) ↔ bytes = front ++ rest ∧ front.length = count := by
  constructor
  · intro h
    simp only [split?] at h
    split at h
    · rename_i len
      obtain ⟨rfl, rfl⟩ := Prod.mk.inj (Option.some.inj h)
      exact ⟨(List.take_append_drop count bytes).symm, len⟩
    · cases h
  · rintro ⟨rfl, rfl⟩
    simp [split?]

theorem split?_eq_none_iff {count : Nat} {bytes : Bytes} :
    split? count bytes = none ↔ bytes.length < count := by
  simp only [split?, List.length_take]
  split <;> simp <;> omega

/-! ## Big-endian numbers -/

/-- The low `width` bytes of a number, most significant first. -/
def bigEndian : (width : Nat) → (value : Nat) → Bytes
  | 0, _ => []
  | width + 1, value => bigEndian width (value / 256) ++ [UInt8.ofNat value]

@[simp] theorem length_bigEndian (width value : Nat) : (bigEndian width value).length = width := by
  induction width generalizing value with
  | zero => rfl
  | succ width ih => simp [bigEndian, ih]

/-- The number that the bytes spell, most significant first. -/
def toNat (bytes : Bytes) : Nat := bytes.foldl (fun value byte => 256 * value + byte.toNat) 0

end Bytes
end ServiceChannel
