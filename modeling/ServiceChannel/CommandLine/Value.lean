import ServiceChannel.CommandLine.Error
import ServiceChannel.Connectivity
import ServiceChannel.Log.Line
import ServiceChannel.Text.Number

/-!
# Values on the command line

The kinds of value that options take, and how each is read.

- `ValueKind.read`: reads a value of a kind.
-/

namespace ServiceChannel.CommandLine

/-- What the agent command can send. -/
inductive Request where
  | bootCompleted
  | audioSuspendCompleted
  | audioResumeCompleted
  | suspendCompleted
  | resumeCompleted
  | shutdown
  | masterClear
  | connectivity
  | identity
  | nameRequest
  | dnsRequest
  | exec
  | auditAck
  deriving DecidableEq

namespace Request

/-- The word on the command line. -/
def word : Request → String
  | .bootCompleted => "boot-completed"
  | .audioSuspendCompleted => "audio-suspend-completed"
  | .audioResumeCompleted => "audio-resume-completed"
  | .suspendCompleted => "suspend-completed"
  | .resumeCompleted => "resume-completed"
  | .shutdown => "shutdown"
  | .masterClear => "master-clear"
  | .connectivity => "connectivity"
  | .identity => "identity"
  | .nameRequest => "name-request"
  | .dnsRequest => "dns-request"
  | .exec => "exec"
  | .auditAck => "audit-ack"

/-- Every request. -/
def all : List Request :=
  [.bootCompleted, .audioSuspendCompleted, .audioResumeCompleted, .suspendCompleted,
   .resumeCompleted, .shutdown, .masterClear, .connectivity, .identity, .nameRequest, .dnsRequest,
   .exec, .auditAck]

/-- The request of a word. -/
def ofWord? (text : String) : Option Request := all.find? (·.word = text)

end Request

/-- A value that was read. -/
inductive Value where
  /-- The option is there, and that is all. -/
  | present
  | text (text : String)
  | int32 (number : Int32)
  | seconds (number : UInt64)
  | connectivity (connectivity : Connectivity)
  | logFormat (format : LogFormat)
  | request (request : Request)
  deriving DecidableEq

/-- What kind of value an option takes. -/
inductive ValueKind where
  | text
  /-- A path, which is not empty. -/
  | path
  | int32
  | seconds
  | connectivity
  | logFormat
  | request
  deriving DecidableEq

/-! ## Reading -/

namespace ValueKind

/-- Reads a value of the kind. -/
def read (kind : ValueKind) (text : String) : Except Error Value :=
  match kind with
  | .text => .ok (.text text)
  | .path => if text = "" then .error .invalidValue else .ok (.text text)
  | .int32 =>
    match Text.readInt? text.toList with
    | some n =>
      if Int32.minValue.toInt ≤ n ∧ n ≤ Int32.maxValue.toInt then .ok (.int32 (Int32.ofInt n))
      else .error .valueValidation
    | none => .error .valueValidation
  | .seconds =>
    match Text.readNat? text.toList with
    | some n => if n < UInt64.size then .ok (.seconds (UInt64.ofNat n)) else .error .valueValidation
    | none => .error .valueValidation
  | .connectivity =>
    match Connectivity.ofName? text with
    | some value => .ok (.connectivity value)
    | none => .error .valueValidation
  | .logFormat =>
    if text = "text" then .ok (.logFormat .text)
    else if text = "json" then .ok (.logFormat .json)
    else .error .invalidValue
  | .request =>
    match Request.ofWord? text with
    | some value => .ok (.request value)
    | none => .error .invalidValue

end ValueKind
end ServiceChannel.CommandLine
