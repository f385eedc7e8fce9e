import ServiceChannel.Message.Agent

/-!
# Messages from the host

What the host tells a companion agent, in the same three forms as the other direction: a message
of the catalog (`HostMessage`), the optional fields that carry it (`HostFields`), and the payload.

- `HostMessage.ofFields_toFields`: a message survives its fields.
-/

namespace ServiceChannel

/-! ## Fields -/

/-- The value of one field on the wire. -/
inductive HostField where
  | code (number : Int32)
  | connectivity (number : Int32)
  | containerName (text : String)
  | containerDns (text : String)
  | auditRecord (content : Bytes)
  | remainingStorage (number : UInt64)
  deriving DecidableEq

/-- The fields of a message, each present or absent. -/
structure HostFields where
  code : Option Int32 := none
  connectivity : Option Int32 := none
  containerName : Option String := none
  containerDns : Option String := none
  auditRecord : Option Bytes := none
  remainingStorage : Option UInt64 := none
  deriving DecidableEq

namespace HostField

/-- The fields of the schema by their tags. -/
def spec? : (tag : Nat) → Option (Wire.FieldSpec HostField)
  | 1 => some ⟨"code", .enumeration .code⟩
  | 2 => some ⟨"connectivity", .enumeration .connectivity⟩
  | 3 => some ⟨"container_cfg_name", .text .containerName⟩
  | 4 => some ⟨"container_cfg_dns", .text .containerDns⟩
  | 5 => some ⟨"audit_record", .blob .auditRecord⟩
  | 6 => some ⟨"audit_remaining_storage", .unsigned .remainingStorage⟩
  | _ => none

/-- The schema of messages from the host. -/
def schema : Wire.Schema HostField := ⟨"CmldToServiceMessage", spec?⟩

/-- Writes a field under its tag. -/
def write : HostField → Bytes
  | .code number => Wire.writeEnumeration 1 number
  | .connectivity number => Wire.writeEnumeration 2 number
  | .containerName text => Wire.writeText 3 text
  | .containerDns text => Wire.writeText 4 text
  | .auditRecord content => Wire.writeBlob 5 content
  | .remainingStorage number => Wire.writeUnsigned 6 number

end HostField

namespace HostFields

/-- The fields after one more: a later value replaces an earlier one. -/
def add (fields : HostFields) : HostField → HostFields
  | .code number => { fields with code := some number }
  | .connectivity number => { fields with connectivity := some number }
  | .containerName text => { fields with containerName := some text }
  | .containerDns text => { fields with containerDns := some text }
  | .auditRecord content => { fields with auditRecord := some content }
  | .remainingStorage number => { fields with remainingStorage := some number }

/-- The present fields in the order of their tags. -/
def toList (fields : HostFields) : List HostField :=
  (fields.code.map .code).toList ++ (fields.connectivity.map .connectivity).toList ++
    (fields.containerName.map .containerName).toList ++
    (fields.containerDns.map .containerDns).toList ++
    (fields.auditRecord.map .auditRecord).toList ++
    (fields.remainingStorage.map .remainingStorage).toList

/-- Collects fields as they come. -/
def ofList (fields : List HostField) : HostFields := fields.foldl add {}

/-- The payload of the fields. -/
def encode (fields : HostFields) : Bytes := fields.toList.flatMap HostField.write

/-- Reads a payload into fields. -/
def decode (payload : Bytes) : Except Wire.DecodeError HostFields :=
  (HostField.schema.decode payload).map ofList

end HostFields

/-! ## Messages -/

/-- A message from the host. -/
inductive HostMessage where
  | shutdown
  | suspend
  | resume
  | audioSuspend
  | audioResume
  /-- The uplinks as the host sets them. -/
  | connectivityChange (connectivity : Connectivity)
  /-- The container's name. -/
  | containerName (name : String)
  /-- The container's DNS server, if it has one. -/
  | containerDns (server : Option String)
  /-- One audit record. -/
  | auditRecord (record : Bytes)
  /-- Every stored audit record was sent. -/
  | auditComplete
  /-- How much audit storage is left. -/
  | auditNotify (remaining : UInt64)
  deriving DecidableEq

namespace HostMessage

/-- The code of the message. -/
def code : HostMessage → HostCode
  | .shutdown => .shutdown
  | .suspend => .suspend
  | .resume => .resume
  | .audioSuspend => .audioSuspend
  | .audioResume => .audioResume
  | .connectivityChange _ => .connectivityChange
  | .containerName _ => .containerName
  | .containerDns _ => .containerDns
  | .auditRecord _ => .auditRecord
  | .auditComplete => .auditComplete
  | .auditNotify _ => .auditNotify

/-- The fields that carry the message. -/
def toFields (message : HostMessage) : HostFields :=
  let fields : HostFields := { code := some message.code.number }
  match message with
  | .connectivityChange connectivity => { fields with connectivity := some connectivity.code }
  | .containerName name => { fields with containerName := some name }
  | .containerDns server => { fields with containerDns := server }
  | .auditRecord record => { fields with auditRecord := some record }
  | .auditNotify remaining => { fields with remainingStorage := some remaining }
  | _ => fields

/-- The payload of the message. -/
def encode (message : HostMessage) : Bytes := message.toFields.encode

/-- The message of a known code. Only the fields of that code are looked at. -/
def ofCode (code : HostCode) (fields : HostFields) : Except MessageError HostMessage :=
  match code with
  | .shutdown => .ok .shutdown
  | .suspend => .ok .suspend
  | .resume => .ok .resume
  | .audioSuspend => .ok .audioSuspend
  | .audioResume => .ok .audioResume
  | .connectivityChange =>
    (MessageError.connectivity fields.connectivity).map .connectivityChange
  | .containerName =>
    match fields.containerName with
    | some name => .ok (.containerName name)
    | none => .error (.missingField "container_cfg_name")
  | .containerDns => .ok (.containerDns fields.containerDns)
  | .auditRecord =>
    match fields.auditRecord with
    | some record => .ok (.auditRecord record)
    | none => .error (.missingField "audit_record")
  | .auditComplete => .ok .auditComplete
  | .auditNotify =>
    match fields.remainingStorage with
    | some remaining => .ok (.auditNotify remaining)
    | none => .error (.missingField "audit_remaining_storage")

/-- The message that the fields carry. -/
def ofFields (fields : HostFields) : Except MessageError HostMessage :=
  match fields.code with
  | none => .error .missingCode
  | some number =>
    match HostCode.ofNumber? number with
    | none => .error (.unknownCode number)
    | some code => ofCode code fields

/-- Reads a payload into a message. -/
def decode (payload : Bytes) : Except MessageError HostMessage :=
  match HostFields.decode payload with
  | .error error => .error (.malformed error)
  | .ok fields => ofFields fields

@[simp] theorem ofFields_toFields (message : HostMessage) :
    ofFields message.toFields = .ok message := by
  cases message <;>
    simp [ofFields, toFields, code, ofCode, MessageError.connectivity, Except.map]

end HostMessage

/-! ## Commands -/

/-- The host messages that carry nothing but their code, as they are asked for. -/
inductive Command where
  | shutdown
  | suspend
  | resume
  | audioSuspend
  | audioResume
  | auditComplete
  deriving DecidableEq

namespace Command

/-- The message that carries the command. Resuming audio has none: agents do not know how. -/
def message? : Command → Option HostMessage
  | .shutdown => some .shutdown
  | .suspend => some .suspend
  | .resume => some .resume
  | .audioSuspend => some .audioSuspend
  | .audioResume => none
  | .auditComplete => some .auditComplete

/-- The name in log lines. -/
def name : Command → String
  | .shutdown => "shutdown"
  | .suspend => "suspend"
  | .resume => "resume"
  | .audioSuspend => "audio_suspend"
  | .audioResume => "audio_resume"
  | .auditComplete => "audit_complete"

theorem message?_eq_none_iff {command : Command} :
    command.message? = none ↔ command = .audioResume := by
  cases command <;> simp [message?]

end Command
end ServiceChannel
