/-!
# Message codes

The numbers that tell the kinds of message apart on the wire, one catalog for each direction.

- `AgentCode.ofNumber?_eq_some_iff`, `HostCode.ofNumber?_eq_some_iff`: a number is read as the
  code that it is the number of, and as no other.
-/

namespace ServiceChannel

/-! ## From the agent -/

/-- Kinds of message that the companion agent sends. -/
inductive AgentCode where
  | bootCompleted
  | audioSuspendCompleted
  | audioResumeCompleted
  | suspendCompleted
  | resumeCompleted
  | shutdown
  | masterClear
  | connectivityChange
  | identity
  | nameRequest
  | dnsRequest
  | exec
  | auditAck
  deriving DecidableEq

namespace AgentCode

/-- The number on the wire. -/
def number : AgentCode → Int32
  | .bootCompleted => 1
  | .audioSuspendCompleted => 2
  | .audioResumeCompleted => 3
  | .suspendCompleted => 4
  | .resumeCompleted => 5
  | .shutdown => 6
  | .masterClear => 7
  | .connectivityChange => 8
  | .identity => 9
  | .nameRequest => 10
  | .dnsRequest => 11
  | .exec => 12
  | .auditAck => 13

/-- The name in the schema and in log lines. -/
def name : AgentCode → String
  | .bootCompleted => "BOOT_COMPLETED"
  | .audioSuspendCompleted => "AUDIO_SUSPEND_COMPLETED"
  | .audioResumeCompleted => "AUDIO_RESUME_COMPLETED"
  | .suspendCompleted => "SUSPEND_COMPLETED"
  | .resumeCompleted => "RESUME_COMPLETED"
  | .shutdown => "SHUTDOWN"
  | .masterClear => "MASTER_CLEAR"
  | .connectivityChange => "CONNECTIVITY_CHANGE"
  | .identity => "IMEI_MAC_PHONENO"
  | .nameRequest => "CONTAINER_CFG_NAME_REQ"
  | .dnsRequest => "CONTAINER_CFG_DNS_REQ"
  | .exec => "EXEC_CAP_SYSTIME_PRIV"
  | .auditAck => "AUDIT_ACK"

/-- Every code, in the order of the numbers. -/
def all : List AgentCode :=
  [.bootCompleted, .audioSuspendCompleted, .audioResumeCompleted, .suspendCompleted,
   .resumeCompleted, .shutdown, .masterClear, .connectivityChange, .identity, .nameRequest,
   .dnsRequest, .exec, .auditAck]

/-- The code of a number. -/
def ofNumber? (number : Int32) : Option AgentCode := all.find? (·.number = number)

/-- The code of a schema name. -/
def ofName? (text : String) : Option AgentCode := all.find? (·.name = text)

@[simp] theorem ofNumber?_number (code : AgentCode) : ofNumber? code.number = some code := by
  cases code <;> rfl

theorem ofNumber?_eq_some_iff {number : Int32} {code : AgentCode} :
    ofNumber? number = some code ↔ number = code.number := by
  constructor
  · intro h
    have := List.find?_some h
    simp only [decide_eq_true_eq] at this
    exact this.symm
  · rintro rfl
    exact ofNumber?_number code

end AgentCode

/-! ## From the host -/

/-- Kinds of message that the host sends. -/
inductive HostCode where
  | shutdown
  | suspend
  | resume
  | audioSuspend
  | audioResume
  | connectivityChange
  | containerName
  | containerDns
  | auditRecord
  | auditComplete
  | auditNotify
  deriving DecidableEq

namespace HostCode

/-- The number on the wire. -/
def number : HostCode → Int32
  | .shutdown => 1
  | .suspend => 2
  | .resume => 3
  | .audioSuspend => 4
  | .audioResume => 5
  | .connectivityChange => 6
  | .containerName => 7
  | .containerDns => 8
  | .auditRecord => 9
  | .auditComplete => 10
  | .auditNotify => 11

/-- The name in the schema. -/
def name : HostCode → String
  | .shutdown => "SHUTDOWN"
  | .suspend => "SUSPEND"
  | .resume => "RESUME"
  | .audioSuspend => "AUDIO_SUSPEND"
  | .audioResume => "AUDIO_RESUME"
  | .connectivityChange => "CONNECTIVITY_CHANGE"
  | .containerName => "CONTAINER_CFG_NAME"
  | .containerDns => "CONTAINER_CFG_DNS"
  | .auditRecord => "AUDIT_RECORD"
  | .auditComplete => "AUDIT_COMPLETE"
  | .auditNotify => "AUDIT_NOTIFY"

/-- Every code, in the order of the numbers. -/
def all : List HostCode :=
  [.shutdown, .suspend, .resume, .audioSuspend, .audioResume, .connectivityChange, .containerName,
   .containerDns, .auditRecord, .auditComplete, .auditNotify]

/-- The code of a number. -/
def ofNumber? (number : Int32) : Option HostCode := all.find? (·.number = number)

/-- The code of a schema name. -/
def ofName? (text : String) : Option HostCode := all.find? (·.name = text)

@[simp] theorem ofNumber?_number (code : HostCode) : ofNumber? code.number = some code := by
  cases code <;> rfl

theorem ofNumber?_eq_some_iff {number : Int32} {code : HostCode} :
    ofNumber? number = some code ↔ number = code.number := by
  constructor
  · intro h
    have := List.find?_some h
    simp only [decide_eq_true_eq] at this
    exact this.symm
  · rintro rfl
    exact ofNumber?_number code

end HostCode
end ServiceChannel
