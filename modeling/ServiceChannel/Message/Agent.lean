import ServiceChannel.Connectivity
import ServiceChannel.Identity
import ServiceChannel.Message.Code
import ServiceChannel.Message.Error
import ServiceChannel.Wire.Schema

/-!
# Messages from the agent

What a companion agent says, in three forms: a message of the catalog (`AgentMessage`), the
optional fields that carry it (`AgentFields`), and the payload on the wire.

- `AgentMessage.ofFields_toFields`: a message survives its fields.
-/

namespace ServiceChannel

/-! ## Fields -/

/-- The value of one field on the wire. -/
inductive AgentField where
  | code (number : Int32)
  | connectivity (number : Int32)
  | imei (text : String)
  | mac (text : String)
  | phoneNumber (text : String)
  | execPath (text : String)
  | execParam (text : String)
  | auditAck (content : Bytes)
  deriving DecidableEq

/-- The fields of a message, each present or absent; parameters in order. -/
structure AgentFields where
  code : Option Int32 := none
  connectivity : Option Int32 := none
  imei : Option String := none
  mac : Option String := none
  phoneNumber : Option String := none
  execPath : Option String := none
  execParams : List String := []
  auditAck : Option Bytes := none
  deriving DecidableEq

namespace AgentField

/-- The fields of the schema by their tags. -/
def spec? : (tag : Nat) → Option (Wire.FieldSpec AgentField)
  | 1 => some ⟨"code", .enumeration .code⟩
  | 2 => some ⟨"connectivity", .enumeration .connectivity⟩
  | 3 => some ⟨"imei", .text .imei⟩
  | 4 => some ⟨"mac", .text .mac⟩
  | 5 => some ⟨"phonenumber", .text .phoneNumber⟩
  | 6 => some ⟨"captime_exec_path", .text .execPath⟩
  | 7 => some ⟨"captime_exec_param", .text .execParam⟩
  | 8 => some ⟨"audit_ack", .blob .auditAck⟩
  | _ => none

/-- The schema of messages from the agent. -/
def schema : Wire.Schema AgentField := ⟨"ServiceToCmldMessage", spec?⟩

/-- Writes a field under its tag. -/
def write : AgentField → Bytes
  | .code number => Wire.writeEnumeration 1 number
  | .connectivity number => Wire.writeEnumeration 2 number
  | .imei text => Wire.writeText 3 text
  | .mac text => Wire.writeText 4 text
  | .phoneNumber text => Wire.writeText 5 text
  | .execPath text => Wire.writeText 6 text
  | .execParam text => Wire.writeText 7 text
  | .auditAck content => Wire.writeBlob 8 content

end AgentField

namespace AgentFields

/-- The fields after one more: a later value replaces an earlier one, parameters line up. -/
def add (fields : AgentFields) : AgentField → AgentFields
  | .code number => { fields with code := some number }
  | .connectivity number => { fields with connectivity := some number }
  | .imei text => { fields with imei := some text }
  | .mac text => { fields with mac := some text }
  | .phoneNumber text => { fields with phoneNumber := some text }
  | .execPath text => { fields with execPath := some text }
  | .execParam text => { fields with execParams := fields.execParams ++ [text] }
  | .auditAck content => { fields with auditAck := some content }

/-- The present fields in the order of their tags. -/
def toList (fields : AgentFields) : List AgentField :=
  (fields.code.map .code).toList ++ (fields.connectivity.map .connectivity).toList ++
    (fields.imei.map .imei).toList ++ (fields.mac.map .mac).toList ++
    (fields.phoneNumber.map .phoneNumber).toList ++ (fields.execPath.map .execPath).toList ++
    fields.execParams.map .execParam ++ (fields.auditAck.map .auditAck).toList

/-- Collects fields as they come. -/
def ofList (fields : List AgentField) : AgentFields := fields.foldl add {}

/-- The payload of the fields. -/
def encode (fields : AgentFields) : Bytes := fields.toList.flatMap AgentField.write

/-- Reads a payload into fields. -/
def decode (payload : Bytes) : Except Wire.DecodeError AgentFields :=
  (AgentField.schema.decode payload).map ofList

end AgentFields

/-! ## Messages -/

/-- A message from the companion agent. -/
inductive AgentMessage where
  /-- The container has booted. -/
  | bootCompleted
  | audioSuspendCompleted
  | audioResumeCompleted
  /-- The container's screen went off. -/
  | suspendCompleted
  /-- The container's screen went on. -/
  | resumeCompleted
  /-- The container asks to be shut down. -/
  | shutdown
  /-- The container asks for its data to be wiped. -/
  | masterClear
  /-- The uplinks as the agent sees them. -/
  | connectivityChange (connectivity : Connectivity)
  /-- Identity attributes, those that are known. -/
  | identity (update : Identity)
  /-- Asks for the container's name. -/
  | nameRequest
  /-- Asks for the container's DNS server. -/
  | dnsRequest
  /-- Asks for a program to be run with the right to set the time. -/
  | exec (path : String) (params : List String)
  /-- An acknowledgement for the audit store. -/
  | auditAck (ack : Bytes)
  deriving DecidableEq

namespace AgentMessage

/-- The code of the message. -/
def code : AgentMessage → AgentCode
  | .bootCompleted => .bootCompleted
  | .audioSuspendCompleted => .audioSuspendCompleted
  | .audioResumeCompleted => .audioResumeCompleted
  | .suspendCompleted => .suspendCompleted
  | .resumeCompleted => .resumeCompleted
  | .shutdown => .shutdown
  | .masterClear => .masterClear
  | .connectivityChange _ => .connectivityChange
  | .identity _ => .identity
  | .nameRequest => .nameRequest
  | .dnsRequest => .dnsRequest
  | .exec _ _ => .exec
  | .auditAck _ => .auditAck

/-- The fields that carry the message. -/
def toFields (message : AgentMessage) : AgentFields :=
  let fields : AgentFields := { code := some message.code.number }
  match message with
  | .connectivityChange connectivity => { fields with connectivity := some connectivity.code }
  | .identity update =>
    { fields with imei := update.imei, mac := update.mac, phoneNumber := update.phoneNumber }
  | .exec path params => { fields with execPath := some path, execParams := params }
  | .auditAck ack => { fields with auditAck := some ack }
  | _ => fields

/-- The payload of the message. -/
def encode (message : AgentMessage) : Bytes := message.toFields.encode

/-- The message of a known code. Only the fields of that code are looked at. -/
def ofCode (code : AgentCode) (fields : AgentFields) : Except MessageError AgentMessage :=
  match code with
  | .bootCompleted => .ok .bootCompleted
  | .audioSuspendCompleted => .ok .audioSuspendCompleted
  | .audioResumeCompleted => .ok .audioResumeCompleted
  | .suspendCompleted => .ok .suspendCompleted
  | .resumeCompleted => .ok .resumeCompleted
  | .shutdown => .ok .shutdown
  | .masterClear => .ok .masterClear
  | .connectivityChange => (MessageError.connectivity fields.connectivity).map .connectivityChange
  | .identity => .ok (.identity ⟨fields.imei, fields.mac, fields.phoneNumber⟩)
  | .nameRequest => .ok .nameRequest
  | .dnsRequest => .ok .dnsRequest
  | .exec =>
    match fields.execPath with
    | some path => .ok (.exec path fields.execParams)
    | none => .error (.missingField "captime_exec_path")
  | .auditAck =>
    match fields.auditAck with
    | some ack => .ok (.auditAck ack)
    | none => .error (.missingField "audit_ack")

/-- The message that the fields carry. -/
def ofFields (fields : AgentFields) : Except MessageError AgentMessage :=
  match fields.code with
  | none => .error .missingCode
  | some number =>
    match AgentCode.ofNumber? number with
    | none => .error (.unknownCode number)
    | some code => ofCode code fields

/-- Reads a payload into a message. -/
def decode (payload : Bytes) : Except MessageError AgentMessage :=
  match AgentFields.decode payload with
  | .error error => .error (.malformed error)
  | .ok fields => ofFields fields

@[simp] theorem ofFields_toFields (message : AgentMessage) :
    ofFields message.toFields = .ok message := by
  cases message <;>
    simp [ofFields, toFields, code, ofCode, MessageError.connectivity, Except.map]

end AgentMessage
end ServiceChannel
