import ServiceChannel.Wire.Varint

/-!
# Keys and unknown fields

A field starts with a key, its tag and layout in one number. A field whose tag nobody knows is
passed over by its layout alone; groups nest, up to a limit.

- `Key.read_write`: a key that was written is read back.
- `skip_length_le`: passing a field over never lengthens the rest.
-/

namespace ServiceChannel.Wire

/-- A field's tag and the layout of its content. -/
structure Key where
  tag : Nat
  type : WireType
  deriving DecidableEq

namespace Key

/-- Tags stay below this: the three low bits of a key are its layout. -/
def tagLimit : Nat := UInt32.size / 8

/-- The key as a number: the layout in the low three bits, the tag above. -/
def toNat (key : Key) : Nat := 8 * key.tag + key.type.number

/-- Writes a key. -/
def write (key : Key) : Bytes := Varint.write key.toNat

/-- The key that a number stands for: at most thirty-two bits, a layout that exists, a tag that is
not zero, and the first of these to fail is the fault. -/
def ofNat (number : Nat) : Except Fault Key :=
  if UInt32.size ≤ number then .error (.invalidKey number)
  else match WireType.ofNumber? (number % 8) with
    | none => .error (.invalidWireType (number % 8))
    | some type => if number / 8 = 0 then .error .zeroTag else .ok ⟨number / 8, type⟩

/-- Reads a key. -/
def read (bytes : Bytes) : Except Fault (Key × Bytes) :=
  match Varint.read bytes with
  | .error fault => .error fault
  | .ok (number, rest) => (ofNat number).map (·, rest)

theorem read_length_lt {bytes rest : Bytes} {key : Key} (h : read bytes = .ok (key, rest)) :
    rest.length < bytes.length := by
  simp only [read] at h
  split at h
  · cases h
  · rename_i number rest' found
    cases keyEq : ofNat number with
    | error fault => simp [keyEq, Except.map] at h
    | ok found' =>
      simp only [keyEq, Except.map, Except.ok.injEq, Prod.mk.injEq] at h
      obtain ⟨-, rfl⟩ := h
      exact Varint.read_length_lt found

theorem ofNat_toNat {key : Key} (tagPos : 0 < key.tag) (tagLt : key.tag < tagLimit) :
    ofNat key.toNat = .ok key := by
  have := key.type.number_lt
  simp only [tagLimit, UInt32.size] at tagLt
  have low : key.toNat % 8 = key.type.number := by simp only [toNat]; omega
  have high : key.toNat / 8 = key.tag := by simp only [toNat]; omega
  have small : ¬ UInt32.size ≤ key.toNat := by simp only [toNat, UInt32.size]; omega
  simp only [ofNat, if_neg small, low, high, WireType.ofNumber?_number]
  rw [if_neg (by omega)]

theorem read_write {key : Key} (rest : Bytes) (tagPos : 0 < key.tag) (tagLt : key.tag < tagLimit) :
    read (key.write ++ rest) = .ok (key, rest) := by
  have := key.type.number_lt
  have small : key.toNat < UInt64.size := by
    simp only [tagLimit, UInt32.size] at tagLt
    simp only [toNat, UInt64.size]
    omega
  simp [read, write, Varint.read_write rest small, ofNat_toNat tagPos tagLt, Except.map]

end Key

/-! ## Content of a given length -/

/-- The next `count` bytes and the rest. -/
def takeBytes (count : Nat) (bytes : Bytes) : Except Fault (Bytes × Bytes) :=
  match Bytes.split? count bytes with
  | some cut => .ok cut
  | none => .error .underflow

/-- Content led by its length, and the rest. -/
def readDelimited (bytes : Bytes) : Except Fault (Bytes × Bytes) :=
  match Varint.read bytes with
  | .error fault => .error fault
  | .ok (count, rest) => takeBytes count rest

/-- Writes content led by its length. -/
def writeDelimited (content : Bytes) : Bytes := Varint.write content.length ++ content

theorem takeBytes_length_le {count : Nat} {bytes front rest : Bytes}
    (h : takeBytes count bytes = .ok (front, rest)) : rest.length ≤ bytes.length := by
  simp only [takeBytes] at h
  split at h
  · rename_i found
    cases h
    obtain ⟨rfl, -⟩ := Bytes.split?_eq_some_iff.1 found
    simp
  · cases h

theorem readDelimited_length_lt {bytes content rest : Bytes}
    (h : readDelimited bytes = .ok (content, rest)) : rest.length < bytes.length := by
  simp only [readDelimited] at h
  split at h
  · cases h
  · rename_i found
    have := Varint.read_length_lt found
    have := takeBytes_length_le h
    omega

theorem readDelimited_writeDelimited {content : Bytes} (rest : Bytes)
    (bound : content.length < UInt64.size) :
    readDelimited (writeDelimited content ++ rest) = .ok (content, rest) := by
  have cut : Bytes.split? content.length (content ++ rest) = some (content, rest) :=
    Bytes.split?_eq_some_iff.2 ⟨rfl, rfl⟩
  simp [readDelimited, writeDelimited, Varint.read_write _ bound, takeBytes, cut]

/-! ## Unknown fields -/

/-- Groups may stand inside one another up to this depth. -/
def groupLimit : Nat := 100

/-- Passes over content that is no group. The end of a group ends nothing here. -/
def skipPlain (type : WireType) (bytes : Bytes) : Except Fault Bytes :=
  match type with
  | .varint => (Varint.read bytes).map (·.2)
  | .sixtyFourBit => (takeBytes 8 bytes).map (·.2)
  | .lengthDelimited => (readDelimited bytes).map (·.2)
  | .thirtyTwoBit => (takeBytes 4 bytes).map (·.2)
  | .startGroup => .ok bytes
  | .endGroup => .error .unexpectedEndGroup

theorem skipPlain_length_le {type : WireType} {bytes rest : Bytes}
    (h : skipPlain type bytes = .ok rest) : rest.length ≤ bytes.length := by
  cases type <;> simp only [skipPlain] at h
  case varint =>
    cases found : Varint.read bytes with
    | error => simp [found, Except.map] at h
    | ok cut =>
      simp only [found, Except.map, Except.ok.injEq] at h
      have := Varint.read_length_lt (show Varint.read bytes = .ok (cut.1, cut.2) from found)
      rw [h] at this
      omega
  case lengthDelimited =>
    cases found : readDelimited bytes with
    | error => simp [found, Except.map] at h
    | ok cut =>
      simp only [found, Except.map, Except.ok.injEq] at h
      have := readDelimited_length_lt (show readDelimited bytes = .ok (cut.1, cut.2) from found)
      rw [h] at this
      omega
  case sixtyFourBit =>
    cases found : takeBytes 8 bytes with
    | error => simp [found, Except.map] at h
    | ok cut =>
      simp only [found, Except.map, Except.ok.injEq] at h
      exact h ▸ takeBytes_length_le (show takeBytes 8 bytes = .ok (cut.1, cut.2) from found)
  case thirtyTwoBit =>
    cases found : takeBytes 4 bytes with
    | error => simp [found, Except.map] at h
    | ok cut =>
      simp only [found, Except.map, Except.ok.injEq] at h
      exact h ▸ takeBytes_length_le (show takeBytes 4 bytes = .ok (cut.1, cut.2) from found)
  case startGroup =>
    cases h
    exact Nat.le_refl _
  case endGroup => cases h

/-- Passes over the rest of the open groups, the innermost first in `tags`. -/
def skipGroups (tags : List Nat) (bytes : Bytes) : Except Fault Bytes :=
  match tags with
  | [] => .ok bytes
  | tag :: outer =>
    match _read : Key.read bytes with
    | .error fault => .error fault
    | .ok (key, rest) =>
      if key.type = .endGroup then
        if key.tag = tag then skipGroups outer rest else .error .unexpectedEndGroup
      else if groupLimit ≤ tags.length then .error .recursionLimit
      else if key.type = .startGroup then skipGroups (key.tag :: tag :: outer) rest
      else
        match _skip : skipPlain key.type rest with
        | .error fault => .error fault
        | .ok rest => skipGroups (tag :: outer) rest
termination_by bytes.length
decreasing_by
  · exact Key.read_length_lt _read
  · exact Key.read_length_lt _read
  · exact Nat.lt_of_le_of_lt (skipPlain_length_le _skip) (Key.read_length_lt _read)

/-- Passes over the content of an unknown field. -/
def skip (key : Key) (bytes : Bytes) : Except Fault Bytes :=
  if key.type = .startGroup then skipGroups [key.tag] bytes else skipPlain key.type bytes

theorem skipGroups_length_le {tags : List Nat} {bytes rest : Bytes}
    (h : skipGroups tags bytes = .ok rest) : rest.length ≤ bytes.length := by
  induction size : bytes.length using Nat.strongRecOn generalizing tags bytes with
  | ind size ih =>
    subst size
    cases tags with
    | nil =>
      simp only [skipGroups, Except.ok.injEq] at h
      exact h ▸ Nat.le_refl _
    | cons tag outer =>
      rw [skipGroups] at h
      split at h
      · cases h
      · rename_i key tail found
        have shorter := Key.read_length_lt found
        split at h
        · split at h
          · exact Nat.le_trans (ih _ shorter h rfl) (Nat.le_of_lt shorter)
          · cases h
        · split at h
          · cases h
          · split at h
            · exact Nat.le_trans (ih _ shorter h rfl) (Nat.le_of_lt shorter)
            · split at h
              · cases h
              · rename_i skipped
                have := skipPlain_length_le skipped
                have := ih _ (by omega) h rfl
                omega

theorem skip_length_le {key : Key} {bytes rest : Bytes} (h : skip key bytes = .ok rest) :
    rest.length ≤ bytes.length := by
  simp only [skip] at h
  split at h
  · exact skipGroups_length_le h
  · exact skipPlain_length_le h

end ServiceChannel.Wire
