import ServiceChannel.Connectivity
import ServiceChannel.Wire.Fault

/-!
# Message errors

Why bytes are no message of the catalog. Some of these errors mean that the two ends no longer
understand one another; the others concern one message only, which can be passed over.
-/

namespace ServiceChannel

/-- Why bytes are no message. -/
inductive MessageError where
  /-- The payload is larger than the limit. -/
  | tooLarge (size max : Nat)
  /-- The payload is not in the tag-and-value encoding. -/
  | malformed (error : Wire.DecodeError)
  /-- The code is in no catalog. -/
  | unknownCode (code : Int32)
  /-- There is no code. -/
  | missingCode
  /-- A field that this kind of message needs is absent. -/
  | missingField (field : String)
  /-- A field holds a number outside its enumeration. -/
  | invalidField (field : String) (value : Int32)
  deriving DecidableEq

namespace MessageError

/-- The error in words. -/
def message : MessageError → String
  | .tooLarge size max => s!"message too large: {size} bytes (max {max})"
  | .malformed error => s!"decode error: {error.message}"
  | .unknownCode code => s!"unknown message code {code.toInt}"
  | .missingCode => "message has no code"
  | .missingField field => s!"missing field '{field}'"
  | .invalidField field value => s!"invalid value {value.toInt} for field '{field}'"

/-- The payload is sound but not understood. Such a message is passed over, and the connection
stays open. -/
def isUnrecognized : MessageError → Bool
  | .unknownCode _ | .missingField _ | .invalidField _ _ => true
  | .tooLarge _ _ | .malformed _ | .missingCode => false

/-- The connectivity that a message needs, from the number in its field. -/
def connectivity (number : Option Int32) : Except MessageError Connectivity :=
  match number with
  | none => .error (.missingField "connectivity")
  | some value =>
    match Connectivity.ofCode? value with
    | some connectivity => .ok connectivity
    | none => .error (.invalidField "connectivity" value)

end MessageError
end ServiceChannel
