import ServiceChannel.Wire.Key

/-!
# Schemas

A schema knows the fields of one kind of message: for a tag, the field's name and how its content
is read. A payload is read as the list of its known fields, in the order in which they stand;
unknown ones are passed over.

- `Schema.decode_nil`, `Schema.decode_known`, `Schema.decode_unknown`: the three steps of reading,
  one field each.
-/

namespace ServiceChannel.Wire

/-! ## Content -/

/-- The content of a field, and what a value of it makes. -/
inductive Content (Field : Type) where
  /-- A number of an enumeration: the low thirty-two bits, signed. -/
  | enumeration (make : Int32 → Field)
  /-- A number of sixty-four bits. -/
  | unsigned (make : UInt64 → Field)
  /-- A text in UTF-8. -/
  | text (make : String → Field)
  /-- Bytes as they are. -/
  | blob (make : Bytes → Field)

namespace Content

variable {Field : Type}

/-- The layout that the content has on the wire. -/
def wireType : Content Field → WireType
  | .enumeration _ | .unsigned _ => .varint
  | .text _ | .blob _ => .lengthDelimited

/-- Reads content in its own layout. -/
def read (content : Content Field) (bytes : Bytes) : Except Fault (Field × Bytes) :=
  match content with
  | .enumeration make =>
    (Varint.read bytes).map fun (number, rest) => (make (UInt32.ofNat number).toInt32, rest)
  | .unsigned make =>
    (Varint.read bytes).map fun (number, rest) => (make (UInt64.ofNat number), rest)
  | .text make =>
    match readDelimited bytes with
    | .error fault => .error fault
    | .ok (content, rest) =>
      match Bytes.text? content with
      | some value => .ok (make value, rest)
      | none => .error .notUtf8
  | .blob make => (readDelimited bytes).map fun (content, rest) => (make content, rest)

/-- Reads content whose key announces the layout `type`. -/
def readAs (content : Content Field) (type : WireType) (bytes : Bytes) :
    Except Fault (Field × Bytes) :=
  if type = content.wireType then content.read bytes
  else .error (.wireTypeMismatch type content.wireType)

theorem read_length_lt {content : Content Field} {bytes rest : Bytes} {field : Field}
    (h : content.read bytes = .ok (field, rest)) : rest.length < bytes.length := by
  cases content <;> simp only [read] at h
  case enumeration make =>
    cases found : Varint.read bytes with
    | error => simp [found, Except.map] at h
    | ok cut =>
      simp only [found, Except.map, Except.ok.injEq, Prod.mk.injEq] at h
      exact h.2 ▸ Varint.read_length_lt (show Varint.read bytes = .ok (cut.1, cut.2) from found)
  case unsigned make =>
    cases found : Varint.read bytes with
    | error => simp [found, Except.map] at h
    | ok cut =>
      simp only [found, Except.map, Except.ok.injEq, Prod.mk.injEq] at h
      exact h.2 ▸ Varint.read_length_lt (show Varint.read bytes = .ok (cut.1, cut.2) from found)
  case text make =>
    split at h
    · cases h
    · rename_i found
      split at h
      · cases h
        exact readDelimited_length_lt found
      · cases h
  case blob make =>
    cases found : readDelimited bytes with
    | error => simp [found, Except.map] at h
    | ok cut =>
      simp only [found, Except.map, Except.ok.injEq, Prod.mk.injEq] at h
      exact h.2 ▸ readDelimited_length_lt (show readDelimited bytes = .ok (cut.1, cut.2) from found)

theorem readAs_length_lt {content : Content Field} {type : WireType} {bytes rest : Bytes}
    {field : Field} (h : content.readAs type bytes = .ok (field, rest)) :
    rest.length < bytes.length := by
  simp only [readAs] at h
  split at h
  · exact read_length_lt h
  · cases h

end Content

/-! ## Schemas -/

/-- A known field: its name in the schema and its content. -/
structure FieldSpec (Field : Type) where
  name : String
  content : Content Field

/-- The known fields of one kind of message. -/
structure Schema (Field : Type) where
  name : String
  field? : (tag : Nat) → Option (FieldSpec Field)

namespace Schema

variable {Field : Type}

/-- Reads one field: a known one gives a value, an unknown one none. -/
def readField (schema : Schema Field) (bytes : Bytes) :
    Except DecodeError (Option Field × Bytes) :=
  match Key.read bytes with
  | .error fault => .error ⟨none, fault⟩
  | .ok (key, rest) =>
    match schema.field? key.tag with
    | some spec =>
      match spec.content.readAs key.type rest with
      | .error fault => .error ⟨some ⟨schema.name, spec.name⟩, fault⟩
      | .ok (field, rest) => .ok (some field, rest)
    | none =>
      match skip key rest with
      | .error fault => .error ⟨none, fault⟩
      | .ok rest => .ok (none, rest)

theorem readField_length_lt {schema : Schema Field} {bytes rest : Bytes} {field : Option Field}
    (h : schema.readField bytes = .ok (field, rest)) : rest.length < bytes.length := by
  simp only [readField] at h
  split at h
  · cases h
  · rename_i found
    have := Key.read_length_lt found
    split at h
    · split at h
      · cases h
      · rename_i content
        cases h
        have := Content.readAs_length_lt content
        omega
    · split at h
      · cases h
      · rename_i skipped
        cases h
        have := skip_length_le skipped
        omega

/-- Reads fields to the end of the bytes, after those in `seen`, the newest first. -/
def decodeAfter (schema : Schema Field) (seen : List Field) (bytes : Bytes) :
    Except DecodeError (List Field) :=
  match bytes with
  | [] => .ok seen.reverse
  | byte :: tail =>
    match _read : schema.readField (byte :: tail) with
    | .error error => .error error
    | .ok (some field, rest) => schema.decodeAfter (field :: seen) rest
    | .ok (none, rest) => schema.decodeAfter seen rest
termination_by bytes.length
decreasing_by
  · exact readField_length_lt _read
  · exact readField_length_lt _read

/-- The known fields of a payload, in the order in which they stand. -/
def decode (schema : Schema Field) (bytes : Bytes) : Except DecodeError (List Field) :=
  schema.decodeAfter [] bytes

theorem decodeAfter_eq (schema : Schema Field) (seen : List Field) (bytes : Bytes) :
    schema.decodeAfter seen bytes = (schema.decode bytes).map (seen.reverse ++ ·) := by
  simp only [decode]
  induction size : bytes.length using Nat.strongRecOn generalizing bytes seen with
  | ind size ih =>
    subst size
    cases bytes with
    | nil => simp [decodeAfter, Except.map]
    | cons byte tail =>
      rw [decodeAfter, decodeAfter]
      split
      · rfl
      · rename_i field rest found
        have shorter := readField_length_lt found
        rw [ih _ shorter (field :: seen) rest rfl, ih _ shorter [field] rest rfl]
        cases schema.decodeAfter [] rest <;> simp [Except.map]
      · rename_i rest found
        exact ih _ (readField_length_lt found) seen rest rfl

@[simp] theorem decode_nil (schema : Schema Field) : schema.decode [] = .ok [] := by
  simp [decode, decodeAfter]

theorem decode_known {schema : Schema Field} {bytes rest : Bytes} {field : Field}
    (h : schema.readField bytes = .ok (some field, rest)) :
    schema.decode bytes = (schema.decode rest).map (field :: ·) := by
  cases bytes with
  | nil => exact absurd (readField_length_lt h) (by simp)
  | cons byte tail =>
    rw [decode, decodeAfter]
    split
    · rename_i found
      rw [h] at found
      cases found
    · rename_i found
      rw [h] at found
      cases found
      exact decodeAfter_eq schema [field] rest
    · rename_i found
      rw [h] at found
      cases found

theorem decode_unknown {schema : Schema Field} {bytes rest : Bytes}
    (h : schema.readField bytes = .ok (none, rest)) :
    schema.decode bytes = schema.decode rest := by
  cases bytes with
  | nil => exact absurd (readField_length_lt h) (by simp)
  | cons byte tail =>
    rw [decode, decodeAfter]
    split
    · rename_i found
      rw [h] at found
      cases found
    · rename_i found
      rw [h] at found
      cases found
    · rename_i found
      rw [h] at found
      cases found
      rfl

end Schema

/-! ## Writing fields -/

/-- Writes a number of an enumeration, its sign carried through sixty-four bits. -/
def writeEnumeration (tag : Nat) (number : Int32) : Bytes :=
  Key.write ⟨tag, .varint⟩ ++ Varint.write number.toInt64.toUInt64.toNat

/-- Writes a number of sixty-four bits. -/
def writeUnsigned (tag : Nat) (number : UInt64) : Bytes :=
  Key.write ⟨tag, .varint⟩ ++ Varint.write number.toNat

/-- Writes bytes led by their length. -/
def writeBlob (tag : Nat) (content : Bytes) : Bytes :=
  Key.write ⟨tag, .lengthDelimited⟩ ++ writeDelimited content

/-- Writes a text led by its length in bytes. -/
def writeText (tag : Nat) (text : String) : Bytes := writeBlob tag (Bytes.ofText text)

end ServiceChannel.Wire
