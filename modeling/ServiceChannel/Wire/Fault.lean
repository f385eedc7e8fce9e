/-!
# Faults of a payload

Why bytes are no message in the tag-and-value encoding, and where the fault lies.

- `DecodeError.message`: the text of a fault, led by the field in which it arose.
-/

namespace ServiceChannel.Wire

/-- How the content after a key is laid out. -/
inductive WireType where
  | varint
  | sixtyFourBit
  | lengthDelimited
  | startGroup
  | endGroup
  | thirtyTwoBit
  deriving DecidableEq

namespace WireType

/-- The low three bits of a key. -/
def number : WireType → Nat
  | .varint => 0
  | .sixtyFourBit => 1
  | .lengthDelimited => 2
  | .startGroup => 3
  | .endGroup => 4
  | .thirtyTwoBit => 5

/-- The layout that three bits of a key stand for; six and seven stand for none. -/
def ofNumber? : Nat → Option WireType
  | 0 => some .varint
  | 1 => some .sixtyFourBit
  | 2 => some .lengthDelimited
  | 3 => some .startGroup
  | 4 => some .endGroup
  | 5 => some .thirtyTwoBit
  | _ => none

/-- The name in error texts. -/
def name : WireType → String
  | .varint => "Varint"
  | .sixtyFourBit => "SixtyFourBit"
  | .lengthDelimited => "LengthDelimited"
  | .startGroup => "StartGroup"
  | .endGroup => "EndGroup"
  | .thirtyTwoBit => "ThirtyTwoBit"

@[simp] theorem ofNumber?_number (type : WireType) : ofNumber? type.number = some type := by
  cases type <;> rfl

theorem number_lt (type : WireType) : type.number < 8 := by cases type <;> decide

end WireType

/-- What is wrong with the bytes. -/
inductive Fault where
  /-- No number ends within ten bytes and sixty-four bits. -/
  | invalidVarint
  /-- A key above thirty-two bits. -/
  | invalidKey (key : Nat)
  /-- A layout that does not exist. -/
  | invalidWireType (number : Nat)
  /-- The tag zero, which no field has. -/
  | zeroTag
  /-- A known field in a layout that is not its own. -/
  | wireTypeMismatch (got wanted : WireType)
  /-- Content that ends before its length is reached. -/
  | underflow
  /-- Text that is not UTF-8. -/
  | notUtf8
  /-- The end of a group that is not open. -/
  | unexpectedEndGroup
  /-- Groups nested too deep. -/
  | recursionLimit
  deriving DecidableEq

namespace Fault

/-- The fault in words. -/
def message : Fault → String
  | .invalidVarint => "invalid varint"
  | .invalidKey key => s!"invalid key value: {key}"
  | .invalidWireType number => s!"invalid wire type value: {number}"
  | .zeroTag => "invalid tag value: 0"
  | .wireTypeMismatch got wanted => s!"invalid wire type: {got.name} (expected {wanted.name})"
  | .underflow => "buffer underflow"
  | .notUtf8 => "invalid string value: data is not UTF-8 encoded"
  | .unexpectedEndGroup => "unexpected end group tag"
  | .recursionLimit => "recursion limit reached"

end Fault

/-- A known field of a message, by the names of both. -/
structure FieldName where
  message : String
  field : String
  deriving DecidableEq

/-- A fault, with the known field in which it arose; keys and unknown fields have none. -/
structure DecodeError where
  place : Option FieldName
  fault : Fault
  deriving DecidableEq

/-- The error in words. -/
def DecodeError.message (error : DecodeError) : String :=
  let place := match error.place with
    | some place => s!"{place.message}.{place.field}: "
    | none => ""
  "failed to decode Protobuf message: " ++ place ++ error.fault.message

end ServiceChannel.Wire
