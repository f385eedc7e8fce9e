import ServiceChannel.Message.Host
import ServiceChannel.Proofs.Message.Recognition

/-!
# Catalogs

Both directions of the channel have a catalog: messages by their codes, and the fields that carry
them. Fields are read as the message of their code. They have to agree with it in the fields that
messages of its code carry, and all other fields are free.

- `Catalog.Carries`, `Catalog.Requires`: the fields of a code, as its messages fill them.
- `Catalog.Failure`: why fields carry no message.
- `Catalog.Exact`: fields are read as the message that they agree with, and as nothing else.
- `Catalog.Lawful.exact`: what has to be known of a catalog for that.
- `catalogs_exact`: both directions.
-/

namespace ServiceChannel

/-! ## Catalogs -/

/-- One direction of the channel: its messages, and the fields that carry them. -/
structure Catalog where
  Message : Type
  Code : Type
  Fields : Type
  /-- The fields besides the code. -/
  Slot : Type
  code : Message → Code
  number : Code → Int32
  toFields : Message → Fields
  ofFields : Fields → Except MessageError Message
  /-- What stands in the field of the code. -/
  code? : Fields → Option Int32
  /-- The name of a field in the schema. -/
  name : Slot → String
  /-- Nothing is present. -/
  empty : Fields
  /-- Both hold the same in this field. -/
  Same : Slot → Fields → Fields → Prop
  /-- The number in a field that stands for a connectivity. -/
  connectivity? : Slot → Fields → Option Int32

namespace Catalog

variable (catalog : Catalog)

/-- Messages of the code carry the field: one of them fills it. -/
def Carries (code : catalog.Code) (slot : catalog.Slot) : Prop :=
  ∃ message, catalog.code message = code ∧
    ¬ catalog.Same slot (catalog.toFields message) catalog.empty

/-- Messages of the code need the field: they carry it, and none of them leaves it out. -/
def Requires (code : catalog.Code) (slot : catalog.Slot) : Prop :=
  catalog.Carries code slot ∧ ∀ message, catalog.code message = code →
    ¬ catalog.Same slot (catalog.toFields message) catalog.empty

/-- Why fields carry no message: they have no code, or a code of no message, or a field of their own
code is missing, or holds a number that stands for no connectivity. -/
inductive Failure (fields : catalog.Fields) : MessageError → Prop where
  | missingCode (absent : catalog.code? fields = none) : Failure fields .missingCode
  | unknownCode {number : Int32} (present : catalog.code? fields = some number)
    (outside : ∀ code, number ≠ catalog.number code) : Failure fields (.unknownCode number)
  | missingField {code : catalog.Code} {slot : catalog.Slot}
    (kind : catalog.code? fields = some (catalog.number code)) (needs : catalog.Requires code slot)
    (absent : catalog.Same slot fields catalog.empty) :
    Failure fields (.missingField (catalog.name slot))
  | invalidField {code : catalog.Code} {slot : catalog.Slot} {value : Int32}
    (kind : catalog.code? fields = some (catalog.number code)) (carries : catalog.Carries code slot)
    (present : catalog.connectivity? slot fields = some value)
    (outside : ∀ connectivity : Connectivity, value ≠ connectivity.code) :
    Failure fields (.invalidField (catalog.name slot) value)

/-- Fields of other codes have no part in how fields are read, whatever they hold. -/
def Independent : Prop :=
  ∀ fields other, catalog.code? fields = catalog.code? other →
    (∀ code slot, catalog.code? fields = some (catalog.number code) → catalog.Carries code slot →
      catalog.Same slot fields other) →
    catalog.ofFields fields = catalog.ofFields other

/-- Fields are read exactly as the catalog has it. -/
structure Exact : Prop where
  /-- Fields are read as the message that has their code and agrees with them in all that messages
  of its code carry. -/
  ok_iff : ∀ fields message, catalog.ofFields fields = .ok message ↔
    catalog.code? fields = some (catalog.number (catalog.code message)) ∧
      ∀ slot, catalog.Carries (catalog.code message) slot →
        catalog.Same slot fields (catalog.toFields message)
  missingCode_iff : ∀ fields,
    catalog.ofFields fields = .error .missingCode ↔ catalog.code? fields = none
  unknownCode_iff : ∀ fields number,
    catalog.ofFields fields = .error (.unknownCode number) ↔
      catalog.code? fields = some number ∧ ∀ code, number ≠ catalog.number code
  /-- Any other failure lies in a field of the code that the fields have. -/
  error_iff : ∀ fields error,
    catalog.ofFields fields = .error error ↔ catalog.Failure fields error
  independent : catalog.Independent

/-- What has to be known of a catalog. -/
structure Lawful : Prop where
  number_injective : ∀ code other, catalog.number code = catalog.number other → code = other
  code?_toFields : ∀ message,
    catalog.code? (catalog.toFields message) = some (catalog.number (catalog.code message))
  ofFields_toFields : ∀ message, catalog.ofFields (catalog.toFields message) = .ok message
  /-- Fields that are read as a message agree with it. -/
  agrees : ∀ fields message, catalog.ofFields fields = .ok message →
    catalog.code? fields = some (catalog.number (catalog.code message)) ∧
      ∀ slot, catalog.Carries (catalog.code message) slot →
        catalog.Same slot fields (catalog.toFields message)
  error_iff : ∀ fields error, catalog.ofFields fields = .error error ↔ catalog.Failure fields error
  independent : catalog.Independent

variable {catalog}

/-- Fields that agree with a message are read like the message's own, which are read back. -/
theorem Lawful.exact (lawful : catalog.Lawful) : catalog.Exact where
  ok_iff fields message := by
    refine ⟨lawful.agrees fields message, fun ⟨kind, same⟩ => ?_⟩
    have own := lawful.code?_toFields message
    rw [← lawful.ofFields_toFields message]
    refine lawful.independent _ _ (kind.trans own.symm) fun code slot present carries => ?_
    obtain rfl := lawful.number_injective _ _ (Option.some.inj (present.symm.trans kind))
    exact same slot carries
  missingCode_iff fields := by
    rw [lawful.error_iff]
    exact ⟨fun | .missingCode absent => absent, .missingCode⟩
  unknownCode_iff fields number := by
    rw [lawful.error_iff]
    exact ⟨fun | .unknownCode present outside => ⟨present, outside⟩,
      fun ⟨present, outside⟩ => .unknownCode present outside⟩
  error_iff := lawful.error_iff
  independent := lawful.independent

end Catalog

/-! ## From the agent -/

/-- The fields from the agent besides the code. -/
inductive AgentSlot where
  | connectivity
  | imei
  | mac
  | phoneNumber
  | execPath
  | execParams
  | auditAck

namespace AgentSlot

/-- The name in the schema. -/
def name : AgentSlot → String
  | .connectivity => "connectivity"
  | .imei => "imei"
  | .mac => "mac"
  | .phoneNumber => "phonenumber"
  | .execPath => "captime_exec_path"
  | .execParams => "captime_exec_param"
  | .auditAck => "audit_ack"

/-- Both hold the same in this field. -/
def Same (slot : AgentSlot) (fields other : AgentFields) : Prop :=
  match slot with
  | .connectivity => fields.connectivity = other.connectivity
  | .imei => fields.imei = other.imei
  | .mac => fields.mac = other.mac
  | .phoneNumber => fields.phoneNumber = other.phoneNumber
  | .execPath => fields.execPath = other.execPath
  | .execParams => fields.execParams = other.execParams
  | .auditAck => fields.auditAck = other.auditAck

/-- The number that stands for a connectivity. -/
def connectivity? : AgentSlot → AgentFields → Option Int32
  | .connectivity, fields => fields.connectivity
  | _, _ => none

/-- The one code whose messages carry the field. -/
def code : AgentSlot → AgentCode
  | .connectivity => .connectivityChange
  | .imei | .mac | .phoneNumber => .identity
  | .execPath | .execParams => .exec
  | .auditAck => .auditAck

/-- No message of the code leaves the field out. -/
def isNeeded : AgentSlot → Bool
  | .connectivity | .execPath | .auditAck => true
  | .imei | .mac | .phoneNumber | .execParams => false

end AgentSlot

theorem AgentCode.number_injective {code other : AgentCode} (same : code.number = other.number) :
    code = other := by
  have known := ofNumber?_number code
  rw [same, ofNumber?_number] at known
  exact (Option.some.inj known).symm

namespace AgentMessage

/-- The catalog of the messages from the agent. -/
def catalog : Catalog where
  Message := AgentMessage
  Code := AgentCode
  Fields := AgentFields
  Slot := AgentSlot
  code := AgentMessage.code
  number := AgentCode.number
  toFields := AgentMessage.toFields
  ofFields := AgentMessage.ofFields
  code? := AgentFields.code
  name := AgentSlot.name
  empty := {}
  Same := AgentSlot.Same
  connectivity? := AgentSlot.connectivity?

/-- A message fills no field of another code. -/
theorem same_empty {message : AgentMessage} {slot : AgentSlot} (other : slot.code ≠ message.code) :
    slot.Same message.toFields {} := by
  cases message <;> cases slot <;> first | rfl | exact absurd rfl other

theorem carries_iff {code : AgentCode} {slot : AgentSlot} :
    catalog.Carries code slot ↔ slot.code = code := by
  constructor
  · rintro ⟨message, rfl, fills⟩
    exact Classical.byContradiction fun other => fills (same_empty other)
  · rintro rfl
    cases slot with
    | connectivity => exact ⟨.connectivityChange .offline, rfl, nofun⟩
    | imei => exact ⟨.identity { imei := some "" }, rfl, nofun⟩
    | mac => exact ⟨.identity { mac := some "" }, rfl, nofun⟩
    | phoneNumber => exact ⟨.identity { phoneNumber := some "" }, rfl, nofun⟩
    | execPath => exact ⟨.exec "" [], rfl, nofun⟩
    | execParams => exact ⟨.exec "" [""], rfl, nofun⟩
    | auditAck => exact ⟨.auditAck [], rfl, nofun⟩

theorem requires_iff {code : AgentCode} {slot : AgentSlot} :
    catalog.Requires code slot ↔ slot.code = code ∧ slot.isNeeded = true := by
  constructor
  · rintro ⟨carries, needs⟩
    obtain rfl := carries_iff.1 carries
    refine ⟨rfl, ?_⟩
    -- A field that is not needed is left out by some message of its code.
    cases slot with
    | connectivity | execPath | auditAck => rfl
    | imei | mac | phoneNumber => exact absurd rfl (needs (.identity {}) rfl)
    | execParams => exact absurd rfl (needs (.exec "" []) rfl)
  · rintro ⟨rfl, needed⟩
    refine ⟨carries_iff.2 rfl, fun message kind => ?_⟩
    cases slot with
    | connectivity | execPath | auditAck =>
      cases message <;> cases kind
      nofun
    | imei | mac | phoneNumber | execParams => cases needed

theorem same_of_carriedBy {fields : AgentFields} {message : AgentMessage} {slot : AgentSlot}
    (carried : message.CarriedBy fields) (own : slot.code = message.code) :
    slot.Same fields message.toFields := by
  obtain ⟨-, needs⟩ := carried
  cases message with
  | connectivityChange connectivity =>
    cases slot <;> cases own
    exact needs
  | identity update =>
    obtain ⟨imei, mac, phoneNumber⟩ := needs
    cases slot <;> cases own
    · exact imei
    · exact mac
    · exact phoneNumber
  | exec path params =>
    obtain ⟨path, params⟩ := needs
    cases slot <;> cases own
    · exact path
    · exact params
  | auditAck ack =>
    cases slot <;> cases own
    exact needs
  | _ => cases slot <;> cases own

/-- What the fields of its own code hold decides how fields are read. -/
theorem ofCode_congr {code : AgentCode} {fields other : AgentFields}
    (same : ∀ slot : AgentSlot, slot.code = code → slot.Same fields other) :
    ofCode code fields = ofCode code other := by
  cases code with
  | connectivityChange =>
    have connectivity : fields.connectivity = other.connectivity := same .connectivity rfl
    simp only [ofCode, connectivity]
  | identity =>
    have imei : fields.imei = other.imei := same .imei rfl
    have mac : fields.mac = other.mac := same .mac rfl
    have phoneNumber : fields.phoneNumber = other.phoneNumber := same .phoneNumber rfl
    simp only [ofCode, imei, mac, phoneNumber]
  | exec =>
    have path : fields.execPath = other.execPath := same .execPath rfl
    have params : fields.execParams = other.execParams := same .execParams rfl
    simp only [ofCode, path, params]
  | auditAck =>
    have ack : fields.auditAck = other.auditAck := same .auditAck rfl
    simp only [ofCode, ack]
  | _ => rfl

theorem failure_of_missing {fields : AgentFields} (slot : AgentSlot)
    (needed : slot.isNeeded = true) (kind : fields.code = some slot.code.number)
    (absent : slot.Same fields {}) : catalog.Failure fields (.missingField slot.name) :=
  .missingField kind (requires_iff.2 ⟨rfl, needed⟩) absent

theorem failure_of_unrecognized {fields : AgentFields} {error : MessageError}
    (unrecognized : fields.Unrecognized error) : catalog.Failure fields error := by
  cases unrecognized with
  | code present outside => exact .unknownCode present outside
  | noConnectivity kind absent => exact failure_of_missing .connectivity rfl kind absent
  | connectivity kind present outside =>
    have carries := carries_iff.2 (rfl : AgentSlot.connectivity.code = .connectivityChange)
    exact .invalidField kind carries present outside
  | noPath kind absent => exact failure_of_missing .execPath rfl kind absent
  | noAck kind absent => exact failure_of_missing .auditAck rfl kind absent

theorem unrecognized_of_failure {fields : AgentFields} {error : MessageError}
    (failure : catalog.Failure fields error) :
    (fields.code = none ∧ error = .missingCode) ∨ fields.Unrecognized error := by
  cases failure with
  | missingCode absent => exact .inl ⟨absent, rfl⟩
  | unknownCode present outside => exact .inr (.code present outside)
  | @missingField code slot kind needs absent =>
    obtain ⟨rfl, needed⟩ := requires_iff.1 needs
    cases slot with
    | connectivity => exact .inr (.noConnectivity kind absent)
    | execPath => exact .inr (.noPath kind absent)
    | auditAck => exact .inr (.noAck kind absent)
    | imei | mac | phoneNumber | execParams => cases needed
  | @invalidField code slot value kind carries present outside =>
    obtain rfl := carries_iff.1 carries
    cases slot with
    | connectivity => exact .inr (.connectivity kind present outside)
    | _ => cases present

theorem catalog_lawful : catalog.Lawful where
  number_injective _ _ := AgentCode.number_injective
  code?_toFields message := by cases message <;> rfl
  ofFields_toFields := AgentMessage.ofFields_toFields
  agrees fields message read := by
    have carried := ofFields_eq_ok_iff.1 read
    exact ⟨carried.1, fun slot carries => same_of_carriedBy carried (carries_iff.1 carries)⟩
  error_iff fields error :=
    ⟨fun failed => (ofFields_eq_error_iff.1 failed).elim
        (fun ⟨absent, code⟩ => code ▸ .missingCode absent) failure_of_unrecognized,
      fun failure => ofFields_eq_error_iff.2 (unrecognized_of_failure failure)⟩
  independent fields other kind same := by
    have kind : fields.code = other.code := kind
    show ofFields fields = ofFields other
    unfold ofFields
    rw [← kind]
    split
    · rfl
    · rename_i number present
      split
      · rfl
      · rename_i code known
        obtain rfl := AgentCode.ofNumber?_eq_some_iff.1 known
        exact ofCode_congr fun slot own => same code slot present (carries_iff.2 own)

end AgentMessage

/-! ## From the host -/

/-- The fields from the host besides the code. -/
inductive HostSlot where
  | connectivity
  | containerName
  | containerDns
  | auditRecord
  | remainingStorage

namespace HostSlot

/-- The name in the schema. -/
def name : HostSlot → String
  | .connectivity => "connectivity"
  | .containerName => "container_cfg_name"
  | .containerDns => "container_cfg_dns"
  | .auditRecord => "audit_record"
  | .remainingStorage => "audit_remaining_storage"

/-- Both hold the same in this field. -/
def Same (slot : HostSlot) (fields other : HostFields) : Prop :=
  match slot with
  | .connectivity => fields.connectivity = other.connectivity
  | .containerName => fields.containerName = other.containerName
  | .containerDns => fields.containerDns = other.containerDns
  | .auditRecord => fields.auditRecord = other.auditRecord
  | .remainingStorage => fields.remainingStorage = other.remainingStorage

/-- The number that stands for a connectivity. -/
def connectivity? : HostSlot → HostFields → Option Int32
  | .connectivity, fields => fields.connectivity
  | _, _ => none

/-- The one code whose messages carry the field. -/
def code : HostSlot → HostCode
  | .connectivity => .connectivityChange
  | .containerName => .containerName
  | .containerDns => .containerDns
  | .auditRecord => .auditRecord
  | .remainingStorage => .auditNotify

/-- No message of the code leaves the field out. -/
def isNeeded : HostSlot → Bool
  | .connectivity | .containerName | .auditRecord | .remainingStorage => true
  | .containerDns => false

end HostSlot

namespace HostCode

theorem ofNumber?_eq_none_iff {number : Int32} :
    ofNumber? number = none ↔ ∀ code : HostCode, number ≠ code.number := by
  rw [Option.eq_none_iff_forall_ne_some]
  simp only [ne_eq, ofNumber?_eq_some_iff]

theorem number_injective {code other : HostCode} (same : code.number = other.number) :
    code = other := by
  have known := ofNumber?_number code
  rw [same, ofNumber?_number] at known
  exact (Option.some.inj known).symm

end HostCode

namespace HostMessage

/-- The catalog of the messages from the host. -/
def catalog : Catalog where
  Message := HostMessage
  Code := HostCode
  Fields := HostFields
  Slot := HostSlot
  code := HostMessage.code
  number := HostCode.number
  toFields := HostMessage.toFields
  ofFields := HostMessage.ofFields
  code? := HostFields.code
  name := HostSlot.name
  empty := {}
  Same := HostSlot.Same
  connectivity? := HostSlot.connectivity?

/-- A message fills no field of another code. -/
theorem same_empty {message : HostMessage} {slot : HostSlot} (other : slot.code ≠ message.code) :
    slot.Same message.toFields {} := by
  cases message <;> cases slot <;> first | rfl | exact absurd rfl other

theorem carries_iff {code : HostCode} {slot : HostSlot} :
    catalog.Carries code slot ↔ slot.code = code := by
  constructor
  · rintro ⟨message, rfl, fills⟩
    exact Classical.byContradiction fun other => fills (same_empty other)
  · rintro rfl
    cases slot with
    | connectivity => exact ⟨.connectivityChange .offline, rfl, nofun⟩
    | containerName => exact ⟨.containerName "", rfl, nofun⟩
    | containerDns => exact ⟨.containerDns (some ""), rfl, nofun⟩
    | auditRecord => exact ⟨.auditRecord [], rfl, nofun⟩
    | remainingStorage => exact ⟨.auditNotify 0, rfl, nofun⟩

theorem requires_iff {code : HostCode} {slot : HostSlot} :
    catalog.Requires code slot ↔ slot.code = code ∧ slot.isNeeded = true := by
  constructor
  · rintro ⟨carries, needs⟩
    obtain rfl := carries_iff.1 carries
    refine ⟨rfl, ?_⟩
    cases slot with
    | connectivity | containerName | auditRecord | remainingStorage => rfl
    | containerDns => exact absurd rfl (needs (.containerDns none) rfl)
  · rintro ⟨rfl, needed⟩
    refine ⟨carries_iff.2 rfl, fun message kind => ?_⟩
    cases slot with
    | connectivity | containerName | auditRecord | remainingStorage =>
      cases message <;> cases kind
      nofun
    | containerDns => cases needed

theorem ofFields_of_kind {fields : HostFields} {code : HostCode}
    (kind : fields.code = some code.number) : ofFields fields = ofCode code fields := by
  rw [ofFields, kind]
  simp

/-- A message of a code is read from fields that agree with it. -/
theorem agrees_of_ofCode {code : HostCode} {fields : HostFields} {message : HostMessage}
    (read : ofCode code fields = .ok message) :
    message.code = code ∧
      ∀ slot : HostSlot, slot.code = code → slot.Same fields message.toFields := by
  cases code with
  | connectivityChange =>
    obtain ⟨connectivity, present, rfl⟩ := Wire.map_eq_ok_iff.1 read
    refine ⟨rfl, fun slot own => ?_⟩
    cases slot <;> cases own
    exact AgentMessage.connectivity_eq_ok_iff.1 present
  | containerName | auditRecord | auditNotify =>
    rw [ofCode] at read
    split at read
    · rename_i present
      cases read
      refine ⟨rfl, fun slot own => ?_⟩
      cases slot <;> cases own
      exact present
    · cases read
  | containerDns =>
    cases read
    refine ⟨rfl, fun slot own => ?_⟩
    cases slot <;> cases own
    rfl
  | _ =>
    cases read
    exact ⟨rfl, fun slot own => by cases slot <;> cases own⟩

/-- What the fields of its own code hold decides how fields are read. -/
theorem ofCode_congr {code : HostCode} {fields other : HostFields}
    (same : ∀ slot : HostSlot, slot.code = code → slot.Same fields other) :
    ofCode code fields = ofCode code other := by
  cases code with
  | connectivityChange =>
    have connectivity : fields.connectivity = other.connectivity := same .connectivity rfl
    simp only [ofCode, connectivity]
  | containerName =>
    have name : fields.containerName = other.containerName := same .containerName rfl
    simp only [ofCode, name]
  | containerDns =>
    have server : fields.containerDns = other.containerDns := same .containerDns rfl
    simp only [ofCode, server]
  | auditRecord =>
    have record : fields.auditRecord = other.auditRecord := same .auditRecord rfl
    simp only [ofCode, record]
  | auditNotify =>
    have storage : fields.remainingStorage = other.remainingStorage := same .remainingStorage rfl
    simp only [ofCode, storage]
  | _ => rfl

theorem failure_of_missing {fields : HostFields} (slot : HostSlot) (needed : slot.isNeeded = true)
    (kind : fields.code = some slot.code.number) (absent : slot.Same fields {}) :
    catalog.Failure fields (.missingField slot.name) :=
  .missingField kind (requires_iff.2 ⟨rfl, needed⟩) absent

theorem failure_of_ofCode {code : HostCode} {fields : HostFields} {error : MessageError}
    (kind : fields.code = some code.number) (failed : ofCode code fields = .error error) :
    catalog.Failure fields error := by
  cases code with
  | connectivityChange =>
    cases present : fields.connectivity with
    | none =>
      simp only [ofCode, present, MessageError.connectivity, Except.map] at failed
      cases failed
      exact failure_of_missing .connectivity rfl kind present
    | some number =>
      cases known : Connectivity.ofCode? number with
      | none =>
        simp only [ofCode, present, MessageError.connectivity, known, Except.map] at failed
        cases failed
        have carries := carries_iff.2 (rfl : HostSlot.connectivity.code = .connectivityChange)
        exact .invalidField kind carries present (Connectivity.ofCode?_eq_none_iff.1 known)
      | some connectivity =>
        simp only [ofCode, present, MessageError.connectivity, known, Except.map] at failed
        cases failed
  | containerName =>
    rw [ofCode] at failed
    split at failed
    · cases failed
    · rename_i absent
      cases failed
      exact failure_of_missing .containerName rfl kind absent
  | auditRecord =>
    rw [ofCode] at failed
    split at failed
    · cases failed
    · rename_i absent
      cases failed
      exact failure_of_missing .auditRecord rfl kind absent
  | auditNotify =>
    rw [ofCode] at failed
    split at failed
    · cases failed
    · rename_i absent
      cases failed
      exact failure_of_missing .remainingStorage rfl kind absent
  | _ => cases failed

theorem ofFields_of_failure {fields : HostFields} {error : MessageError}
    (failure : catalog.Failure fields error) : ofFields fields = .error error := by
  cases failure with
  | missingCode absent => simp only [ofFields, (show fields.code = none from absent)]
  | unknownCode present outside =>
    simp only [ofFields, (show fields.code = some _ from present),
      HostCode.ofNumber?_eq_none_iff.2 outside]
  | @missingField code slot kind needs absent =>
    obtain ⟨rfl, needed⟩ := requires_iff.1 needs
    refine (ofFields_of_kind kind).trans ?_
    cases slot with
    | connectivity =>
      have absent : fields.connectivity = none := absent
      simp only [HostSlot.code, ofCode, absent, MessageError.connectivity, Except.map]
      rfl
    | containerName =>
      have absent : fields.containerName = none := absent
      simp only [HostSlot.code, ofCode, absent]
      rfl
    | auditRecord =>
      have absent : fields.auditRecord = none := absent
      simp only [HostSlot.code, ofCode, absent]
      rfl
    | remainingStorage =>
      have absent : fields.remainingStorage = none := absent
      simp only [HostSlot.code, ofCode, absent]
      rfl
    | containerDns => cases needed
  | @invalidField code slot value kind carries present outside =>
    obtain rfl := carries_iff.1 carries
    refine (ofFields_of_kind kind).trans ?_
    cases slot with
    | connectivity =>
      have present : fields.connectivity = some value := present
      simp only [HostSlot.code, ofCode, present, MessageError.connectivity,
        Connectivity.ofCode?_eq_none_iff.2 outside, Except.map]
      rfl
    | _ => cases present

theorem catalog_lawful : catalog.Lawful where
  number_injective _ _ := HostCode.number_injective
  code?_toFields message := by cases message <;> rfl
  ofFields_toFields := HostMessage.ofFields_toFields
  agrees fields message read := by
    have read : ofFields fields = .ok message := read
    unfold ofFields at read
    split at read
    · cases read
    · rename_i number present
      split at read
      · cases read
      · rename_i code known
        obtain rfl := HostCode.ofNumber?_eq_some_iff.1 known
        obtain ⟨rfl, same⟩ := agrees_of_ofCode read
        exact ⟨present, fun slot carries => same slot (carries_iff.1 carries)⟩
  error_iff fields error := by
    refine ⟨fun failed => ?_, ofFields_of_failure⟩
    have failed : ofFields fields = .error error := failed
    unfold ofFields at failed
    split at failed
    · rename_i absent
      cases failed
      exact .missingCode absent
    · rename_i number present
      split at failed
      · rename_i outside
        cases failed
        exact .unknownCode present (HostCode.ofNumber?_eq_none_iff.1 outside)
      · rename_i code known
        obtain rfl := HostCode.ofNumber?_eq_some_iff.1 known
        exact failure_of_ofCode present failed
  independent fields other kind same := by
    have kind : fields.code = other.code := kind
    show ofFields fields = ofFields other
    unfold ofFields
    rw [← kind]
    split
    · rfl
    · rename_i number present
      split
      · rfl
      · rename_i code known
        obtain rfl := HostCode.ofNumber?_eq_some_iff.1 known
        exact ofCode_congr fun slot own => same code slot present (carries_iff.2 own)

end HostMessage

/-! ## Both directions -/

/-- Fields are read as the message of the catalog that they agree with: in both directions the code
decides, then the fields that messages of this code carry, and no other field has a part in it.
They fail for want of a code, for a code of no message, or for a field of their own code. -/
theorem catalogs_exact : AgentMessage.catalog.Exact ∧ HostMessage.catalog.Exact :=
  ⟨AgentMessage.catalog_lawful.exact, HostMessage.catalog_lawful.exact⟩

/-- A number that stands for no connectivity does no harm beside a report that the container has
booted. -/
example : AgentMessage.ofFields { code := some 1, connectivity := some 9 } = .ok .bootCompleted :=
  rfl

end ServiceChannel
