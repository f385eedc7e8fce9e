import ServiceChannel.Wire.Schema

/-!
# Fields that were written

A field that was written under its tag is read back as the value that it was written from, whatever
follows it. A payload made of such fields is read back as the list of their values.

- `Content.read_enumeration`, `Content.read_unsigned`, `Content.read_text`, `Content.read_blob`: the
  four kinds of content.
- `Schema.readField_writeEnumeration` and its siblings: one field, its key included.
- `Schema.decode_flatMap`: a payload.
-/

namespace ServiceChannel.Wire

variable {Field : Type}

/-! ## Content -/

/-- The low thirty-two bits of a sign-extended number are the number. -/
theorem toInt32_toInt64_toNat (number : Int32) :
    (UInt32.ofNat number.toInt64.toUInt64.toNat).toInt32 = number := by
  have truncated :
      (UInt32.ofNat number.toInt64.toUInt64.toNat).toInt32 = number.toInt64.toInt32 := by
    apply Int32.toBitVec_inj.1
    apply BitVec.eq_of_toNat_eq
    rw [Int64.toBitVec_toInt32, BitVec.signExtend_eq_setWidth_of_le _ (by decide)]
    simp only [UInt32.toBitVec_toInt32, UInt32.toNat_toBitVec, UInt32.toNat_ofNat',
      BitVec.toNat_setWidth]
    rfl
  rw [truncated, Int32.toInt32_toInt64]

namespace Content

theorem read_enumeration (make : Int32 → Field) (number : Int32) (rest : Bytes) :
    (Content.enumeration make).read (Varint.write number.toInt64.toUInt64.toNat ++ rest) =
      .ok (make number, rest) := by
  simp only [read, Varint.read_write rest (UInt64.toNat_lt _), Except.map, toInt32_toInt64_toNat]

theorem read_unsigned (make : UInt64 → Field) (number : UInt64) (rest : Bytes) :
    (Content.unsigned make).read (Varint.write number.toNat ++ rest) = .ok (make number, rest) := by
  simp only [read, Varint.read_write rest (UInt64.toNat_lt _), Except.map, UInt64.ofNat_toNat]

theorem read_text (make : String → Field) (text : String) (rest : Bytes)
    (bound : (Bytes.ofText text).length < UInt64.size) :
    (Content.text make).read (writeDelimited (Bytes.ofText text) ++ rest) =
      .ok (make text, rest) := by
  simp only [read, readDelimited_writeDelimited rest bound, Bytes.text?_ofText]

theorem read_blob (make : Bytes → Field) (content rest : Bytes)
    (bound : content.length < UInt64.size) :
    (Content.blob make).read (writeDelimited content ++ rest) = .ok (make content, rest) := by
  simp only [read, readDelimited_writeDelimited rest bound, Except.map]

end Content

/-! ## Sizes -/

theorem length_lt_length_writeBlob (tag : Nat) (content : Bytes) :
    content.length < (writeBlob tag content).length := by
  have : 0 < (Varint.write content.length).length := by
    rw [Varint.write]
    split <;> simp
  simp only [writeBlob, writeDelimited, List.length_append]
  omega

theorem length_write_le {write : Field → Bytes} {fields : List Field} {field : Field}
    (mem : field ∈ fields) : (write field).length ≤ (fields.flatMap write).length := by
  rw [List.flatMap_def]
  exact (List.sublist_flatten_of_mem (List.mem_map_of_mem mem)).length_le

/-! ## Fields -/

namespace Schema

variable {schema : Schema Field}

/-- The key of a known field, and then content of its kind. -/
theorem readField_write {tag : Nat} {spec : FieldSpec Field} {field : Field} {written rest : Bytes}
    (known : schema.field? tag = some spec) (valid : 0 < tag ∧ tag < Key.tagLimit)
    (content : spec.content.read (written ++ rest) = .ok (field, rest)) :
    schema.readField (Key.write ⟨tag, spec.content.wireType⟩ ++ written ++ rest) =
      .ok (some field, rest) := by
  have key : Key.read (Key.write ⟨tag, spec.content.wireType⟩ ++ (written ++ rest)) =
      .ok (⟨tag, spec.content.wireType⟩, written ++ rest) :=
    Key.read_write (written ++ rest) valid.1 valid.2
  rw [List.append_assoc]
  simp only [readField, key, known, Content.readAs, if_true, content]

variable {name : String}

theorem readField_writeEnumeration (tag : Nat) {make : Int32 → Field} {number : Int32}
    {rest : Bytes} (known : schema.field? tag = some ⟨name, .enumeration make⟩)
    (valid : 0 < tag ∧ tag < Key.tagLimit) :
    schema.readField (writeEnumeration tag number ++ rest) = .ok (some (make number), rest) :=
  readField_write known valid (Content.read_enumeration make number rest)

theorem readField_writeUnsigned (tag : Nat) {make : UInt64 → Field} {number : UInt64}
    {rest : Bytes} (known : schema.field? tag = some ⟨name, .unsigned make⟩)
    (valid : 0 < tag ∧ tag < Key.tagLimit) :
    schema.readField (writeUnsigned tag number ++ rest) = .ok (some (make number), rest) :=
  readField_write known valid (Content.read_unsigned make number rest)

theorem readField_writeBlob (tag : Nat) {make : Bytes → Field} {content rest : Bytes}
    (known : schema.field? tag = some ⟨name, .blob make⟩) (valid : 0 < tag ∧ tag < Key.tagLimit)
    (bound : (writeBlob tag content).length < UInt64.size) :
    schema.readField (writeBlob tag content ++ rest) = .ok (some (make content), rest) :=
  readField_write known valid (Content.read_blob make content rest
    (Nat.lt_trans (length_lt_length_writeBlob tag content) bound))

theorem readField_writeText (tag : Nat) {make : String → Field} {text : String} {rest : Bytes}
    (known : schema.field? tag = some ⟨name, .text make⟩) (valid : 0 < tag ∧ tag < Key.tagLimit)
    (bound : (writeText tag text).length < UInt64.size) :
    schema.readField (writeText tag text ++ rest) = .ok (some (make text), rest) :=
  readField_write known valid (Content.read_text make text rest
    (Nat.lt_trans (length_lt_length_writeBlob tag (Bytes.ofText text)) bound))

theorem decode_flatMap {write : Field → Bytes} {fields : List Field}
    (each : ∀ field ∈ fields, ∀ rest,
      schema.readField (write field ++ rest) = .ok (some field, rest)) :
    schema.decode (fields.flatMap write) = .ok fields := by
  induction fields with
  | nil => exact decode_nil schema
  | cons field fields ih =>
    have first := each field (by simp) (fields.flatMap write)
    have later := ih fun other mem => each other (by simp [mem])
    rw [List.flatMap_cons, decode_known first, later]
    rfl

end Schema

end ServiceChannel.Wire
