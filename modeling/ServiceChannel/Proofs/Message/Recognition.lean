import ServiceChannel.Message.Agent
import ServiceChannel.Proofs.Wire.Grammar

/-!
# Which payloads are understood

What a payload says, apart from the way in which `decode_payload` reads it. A payload spells fields
or it spells nothing. Fields carry a message of the catalog, or they have a code and yet are not
understood, for one reason, or they have no code.

- `AgentFields.SpelledBy`, `AgentFields.decode_eq_ok_iff`: the fields that a payload spells.
- `AgentMessage.CarriedBy`, `AgentMessage.ofFields_eq_ok_iff`: the message that fields carry.
- `AgentFields.Unrecognized`, `AgentMessage.ofFields_eq_error_iff`: why fields carry none.
- `AgentMessage.decode_eq_ok_iff`: the message that a payload is read as.
-/

namespace ServiceChannel

/-! ## Fields of a payload -/

namespace AgentFields

/-- The payload spells these fields: the last value of each, and every parameter. -/
def SpelledBy (fields : AgentFields) (payload : Bytes) : Prop :=
  ∃ spelled, AgentField.schema.Spells spelled payload ∧ ofList spelled = fields

theorem decode_eq_ok_iff {fields : AgentFields} {payload : Bytes} :
    decode payload = .ok fields ↔ fields.SpelledBy payload := by
  rw [decode, Wire.map_eq_ok_iff]
  simp only [Wire.Schema.decode_eq_ok_iff, SpelledBy]

/-- A payload spells one collection of fields at most. -/
theorem SpelledBy.unique {fields other : AgentFields} {payload : Bytes}
    (spelled : fields.SpelledBy payload) (again : other.SpelledBy payload) : fields = other :=
  Except.ok.inj ((decode_eq_ok_iff.2 spelled).symm.trans (decode_eq_ok_iff.2 again))

/-! ## Fields that carry no message -/

/-- Why fields with a code carry no message: no kind of message has the code, or a field that its
kind needs is absent, or holds a number that stands for nothing. -/
inductive Unrecognized (fields : AgentFields) : MessageError → Prop where
  | code {number : Int32} (present : fields.code = some number)
    (outside : ∀ code : AgentCode, number ≠ code.number) : Unrecognized fields (.unknownCode number)
  | noConnectivity (kind : fields.code = some AgentCode.connectivityChange.number)
    (absent : fields.connectivity = none) : Unrecognized fields (.missingField "connectivity")
  | connectivity {number : Int32} (kind : fields.code = some AgentCode.connectivityChange.number)
    (present : fields.connectivity = some number)
    (outside : ∀ connectivity : Connectivity, number ≠ connectivity.code) :
    Unrecognized fields (.invalidField "connectivity" number)
  | noPath (kind : fields.code = some AgentCode.exec.number) (absent : fields.execPath = none) :
    Unrecognized fields (.missingField "captime_exec_path")
  | noAck (kind : fields.code = some AgentCode.auditAck.number) (absent : fields.auditAck = none) :
    Unrecognized fields (.missingField "audit_ack")

variable {fields : AgentFields} {error : MessageError}

/-- A payload whose fields are not understood is passed over. -/
theorem Unrecognized.isUnrecognized (unrecognized : fields.Unrecognized error) :
    error.isUnrecognized = true := by
  cases unrecognized <;> rfl

end AgentFields

theorem AgentCode.ofNumber?_eq_none_iff {number : Int32} :
    ofNumber? number = none ↔ ∀ code : AgentCode, number ≠ code.number := by
  rw [Option.eq_none_iff_forall_ne_some]
  simp only [ne_eq, ofNumber?_eq_some_iff]

theorem Connectivity.ofCode?_eq_none_iff {number : Int32} :
    ofCode? number = none ↔ ∀ connectivity : Connectivity, number ≠ connectivity.code := by
  rw [Option.eq_none_iff_forall_ne_some]
  simp only [ne_eq, ofCode?_eq_some_iff]

/-! ## Fields that carry a message -/

namespace AgentMessage

/-- The fields carry the message: its code, and what its kind needs. All other fields are free. -/
def CarriedBy (message : AgentMessage) (fields : AgentFields) : Prop :=
  fields.code = some message.code.number ∧
    match message with
    | .connectivityChange connectivity => fields.connectivity = some connectivity.code
    | .identity update =>
      fields.imei = update.imei ∧ fields.mac = update.mac ∧ fields.phoneNumber = update.phoneNumber
    | .exec path params => fields.execPath = some path ∧ fields.execParams = params
    | .auditAck ack => fields.auditAck = some ack
    | _ => True

variable {fields : AgentFields}

theorem connectivity_eq_ok_iff {number : Option Int32} {connectivity : Connectivity} :
    MessageError.connectivity number = .ok connectivity ↔ number = some connectivity.code := by
  cases number with
  | none => simp [MessageError.connectivity]
  | some number =>
    rw [Option.some.injEq, ← Connectivity.ofCode?_eq_some_iff, MessageError.connectivity]
    cases Connectivity.ofCode? number <;> simp

theorem carriedBy_of_ofCode {code : AgentCode} {message : AgentMessage}
    (kind : fields.code = some code.number) (read : ofCode code fields = .ok message) :
    message.CarriedBy fields := by
  cases code with
  | connectivityChange =>
    obtain ⟨connectivity, present, rfl⟩ := Wire.map_eq_ok_iff.1 read
    exact ⟨kind, connectivity_eq_ok_iff.1 present⟩
  | identity =>
    cases read
    exact ⟨kind, rfl, rfl, rfl⟩
  | exec =>
    rw [ofCode] at read
    split at read
    · rename_i path present
      cases read
      exact ⟨kind, present, rfl⟩
    · cases read
  | auditAck =>
    rw [ofCode] at read
    split at read
    · rename_i ack present
      cases read
      exact ⟨kind, present⟩
    · cases read
  | _ =>
    cases read
    exact ⟨kind, trivial⟩

theorem unrecognized_of_ofCode {code : AgentCode} {error : MessageError}
    (kind : fields.code = some code.number) (failed : ofCode code fields = .error error) :
    fields.Unrecognized error := by
  cases code with
  | connectivityChange =>
    cases present : fields.connectivity with
    | none =>
      simp only [ofCode, present, MessageError.connectivity, Except.map] at failed
      cases failed
      exact .noConnectivity kind present
    | some number =>
      cases known : Connectivity.ofCode? number with
      | none =>
        simp only [ofCode, present, MessageError.connectivity, known, Except.map] at failed
        cases failed
        exact .connectivity kind present (Connectivity.ofCode?_eq_none_iff.1 known)
      | some connectivity =>
        simp only [ofCode, present, MessageError.connectivity, known, Except.map] at failed
        cases failed
  | exec =>
    rw [ofCode] at failed
    split at failed
    · cases failed
    · rename_i absent
      cases failed
      exact .noPath kind absent
  | auditAck =>
    rw [ofCode] at failed
    split at failed
    · cases failed
    · rename_i absent
      cases failed
      exact .noAck kind absent
  | _ => cases failed

theorem ofFields_of_kind {code : AgentCode} (kind : fields.code = some code.number) :
    ofFields fields = ofCode code fields := by
  rw [ofFields, kind]
  simp

/-- Fields are read as the message that they carry. -/
theorem ofFields_eq_ok_iff {message : AgentMessage} :
    ofFields fields = .ok message ↔ message.CarriedBy fields := by
  constructor
  · intro read
    unfold ofFields at read
    split at read
    · cases read
    · rename_i number present
      split at read
      · cases read
      · rename_i code known
        obtain rfl := AgentCode.ofNumber?_eq_some_iff.1 known
        exact carriedBy_of_ofCode present read
  · rintro ⟨kind, needs⟩
    rw [ofFields_of_kind kind]
    cases message with
    | connectivityChange connectivity =>
      exact Wire.map_eq_ok_iff.2 ⟨connectivity, connectivity_eq_ok_iff.2 needs, rfl⟩
    | identity update =>
      obtain ⟨imei, mac, phoneNumber⟩ := needs
      simp only [code, ofCode, imei, mac, phoneNumber]
    | exec path params =>
      obtain ⟨present, params⟩ := needs
      simp only [code, ofCode, present, params]
    | auditAck ack => simp only [code, ofCode, (show fields.auditAck = some ack from needs)]
    | _ => rfl

/-- Fields that carry no message have no code, or are not understood. -/
theorem ofFields_eq_error_iff {error : MessageError} :
    ofFields fields = .error error ↔
      (fields.code = none ∧ error = .missingCode) ∨ fields.Unrecognized error := by
  constructor
  · intro failed
    unfold ofFields at failed
    split at failed
    · rename_i absent
      cases failed
      exact .inl ⟨absent, rfl⟩
    · rename_i number present
      split at failed
      · rename_i outside
        cases failed
        exact .inr (.code present (AgentCode.ofNumber?_eq_none_iff.1 outside))
      · rename_i code known
        obtain rfl := AgentCode.ofNumber?_eq_some_iff.1 known
        exact .inr (unrecognized_of_ofCode present failed)
  · rintro (⟨absent, rfl⟩ | unrecognized)
    · simp only [ofFields, absent]
    · cases unrecognized with
      | code present outside =>
        simp only [ofFields, present, AgentCode.ofNumber?_eq_none_iff.2 outside]
      | noConnectivity kind absent =>
        simp [ofFields_of_kind kind, ofCode, absent, MessageError.connectivity, Except.map]
      | connectivity kind present outside =>
        simp [ofFields_of_kind kind, ofCode, present, MessageError.connectivity, Except.map,
          Connectivity.ofCode?_eq_none_iff.2 outside]
      | noPath kind absent | noAck kind absent => simp only [ofFields_of_kind kind, ofCode, absent]

/-! ## Payloads -/

theorem decode_of_spelled {payload : Bytes} (spelled : fields.SpelledBy payload) :
    decode payload = ofFields fields := by
  rw [decode, AgentFields.decode_eq_ok_iff.2 spelled]

theorem decode_of_not_spelled {payload : Bytes}
    (nothing : ¬ ∃ fields : AgentFields, fields.SpelledBy payload) :
    ∃ error, decode payload = .error (.malformed error) := by
  cases read : AgentFields.decode payload with
  | ok fields => exact absurd ⟨fields, AgentFields.decode_eq_ok_iff.1 read⟩ nothing
  | error error => exact ⟨error, by rw [decode, read]⟩

/-- A payload is read as the message that the fields which it spells carry. -/
theorem decode_eq_ok_iff {payload : Bytes} {message : AgentMessage} :
    decode payload = .ok message ↔
      ∃ fields : AgentFields, fields.SpelledBy payload ∧ message.CarriedBy fields := by
  constructor
  · intro read
    by_cases spells : ∃ fields : AgentFields, fields.SpelledBy payload
    · obtain ⟨fields, spelled⟩ := spells
      exact ⟨fields, spelled, ofFields_eq_ok_iff.1 ((decode_of_spelled spelled).symm.trans read)⟩
    · obtain ⟨error, failed⟩ := decode_of_not_spelled spells
      cases failed.symm.trans read
  · rintro ⟨fields, spelled, carried⟩
    exact (decode_of_spelled spelled).trans (ofFields_eq_ok_iff.2 carried)

end AgentMessage

end ServiceChannel
