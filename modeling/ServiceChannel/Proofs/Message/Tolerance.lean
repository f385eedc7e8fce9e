import Mathlib.Data.List.Induction
import ServiceChannel.Proofs.Message.RoundTrip
import ServiceChannel.Proofs.Wire.Parts

/-!
# What decides about a payload

Agents and hosts of different versions understand one another. Of each field a payload's last
occurrence decides, of the parameters of a program all of them in their order, and nothing else:
fields that nobody knows are passed over, and neighbours of different tags may stand in any order.

- `Dialect`: one direction of the channel, as it reads payloads.
- `Dialect.decisive`: what decides of the parts with a tag.
- `Dialect.Tolerant`: nothing else has an influence.
- `Dialect.Lawful.tolerant`: what has to be known of a direction for that.
- `dialects_tolerant`: both directions.
-/

namespace ServiceChannel

open Wire (Part)

/-! ## Directions -/

/-- One direction of the channel, as it reads payloads. -/
structure Dialect where
  Field : Type
  Fields : Type
  Message : Type
  schema : Wire.Schema Field
  tag : Field → Nat
  /-- Fields with this tag line up, where others replace one another. -/
  linesUp : (tag : Nat) → Bool
  empty : Fields
  add : Fields → Field → Fields
  /-- What the fields hold under a tag. -/
  held : Fields → (tag : Nat) → List Field
  /-- Earlier fields, and later ones over them. -/
  overlay : (earlier later : Fields) → Fields
  decodeFields : Bytes → Except Wire.DecodeError Fields
  ofFields : Fields → Except MessageError Message
  decode : Bytes → Except MessageError Message

namespace Dialect

variable (dialect : Dialect)

/-- What decides of some values with a tag: all of them where they line up, else the last. -/
def deciding (tag : Nat) (own : List dialect.Field) : List dialect.Field :=
  if dialect.linesUp tag then own else own.getLast?.toList

/-- What decides of the parts with a tag. -/
def decisive (tag : Nat) (parts : List Part) : List dialect.Field :=
  dialect.deciding tag (dialect.schema.values (parts.filter fun part => part.key.tag = tag))

/-- Nothing but the decisive parts has an influence on how a payload is read. -/
structure Tolerant : Prop where
  /-- Fields that are accepted are read, and hold what decides under each tag. -/
  holds : ∀ parts : List Part, (∀ part ∈ parts, dialect.schema.Accepts part) →
    ∃ fields, dialect.decodeFields (Part.payload parts) = .ok fields ∧
      dialect.decode (Part.payload parts) = dialect.ofFields fields ∧
      ∀ tag, dialect.held fields tag = dialect.decisive tag parts
  /-- Payloads that agree in what decides are read alike. -/
  depends : ∀ parts others : List Part, (∀ part ∈ parts, dialect.schema.Accepts part) →
    (∀ part ∈ others, dialect.schema.Accepts part) →
    (∀ tag, dialect.decisive tag parts = dialect.decisive tag others) →
    dialect.decode (Part.payload parts) = dialect.decode (Part.payload others)
  /-- Fields that nobody knows change nothing, wherever they stand. -/
  passes : ∀ before inserted after : List Part,
    (∀ part ∈ inserted,
      dialect.schema.field? part.key.tag = none ∧ part.height < Wire.groupLimit) →
    dialect.decode (Part.payload (before ++ inserted ++ after)) =
      dialect.decode (Part.payload (before ++ after))
  /-- Neighbours of different tags may change places, unless neither is accepted. -/
  exchanges : ∀ (before : List Part) (part other : Part) (after : List Part),
    part.key.tag ≠ other.key.tag → dialect.schema.Accepts part ∨ dialect.schema.Accepts other →
    dialect.decode (Part.payload (before ++ part :: other :: after)) =
      dialect.decode (Part.payload (before ++ other :: part :: after))
  /-- A payload behind another one is read as its fields over those of the other. -/
  follows : ∀ parts others : List Part, (∀ part ∈ parts, dialect.schema.Accepts part) →
    (∀ part ∈ others, dialect.schema.Accepts part) →
    ∃ earlier later, dialect.decodeFields (Part.payload parts) = .ok earlier ∧
      dialect.decodeFields (Part.payload others) = .ok later ∧
      dialect.decode (Part.payload parts ++ Part.payload others) =
        dialect.ofFields (dialect.overlay earlier later)
  /-- A field that is not accepted spoils every payload. -/
  refuses : ∀ (parts : List Part) (rest : Bytes) (part : Part), part ∈ parts →
    ¬ dialect.schema.Accepts part →
    ∃ error, dialect.decode (Part.payload parts ++ rest) = .error (.malformed error)

/-- What has to be known of a direction. -/
structure Lawful : Prop where
  tag_of_spells : ∀ {tag spec bytes field}, dialect.schema.field? tag = some spec →
    spec.content.Spells bytes field → dialect.tag field = tag
  decodeFields_eq : ∀ bytes, dialect.decodeFields bytes =
    (dialect.schema.decode bytes).map (List.foldl dialect.add dialect.empty)
  decode_eq : ∀ bytes, dialect.decode bytes =
    match dialect.decodeFields bytes with
    | .error error => .error (.malformed error)
    | .ok fields => dialect.ofFields fields
  held_empty : ∀ tag, dialect.held dialect.empty tag = []
  held_add : ∀ fields field tag, dialect.held (dialect.add fields field) tag =
    if dialect.tag field = tag then
      if dialect.linesUp tag then dialect.held fields tag ++ [field] else [field]
    else dialect.held fields tag
  ext : ∀ fields other, (∀ tag, dialect.held fields tag = dialect.held other tag) → fields = other
  overlay_empty : ∀ earlier, dialect.overlay earlier dialect.empty = earlier
  overlay_add : ∀ earlier later field,
    dialect.overlay earlier (dialect.add later field) =
      dialect.add (dialect.overlay earlier later) field

/-- The fields that some values make. -/
def ofList (values : List dialect.Field) : dialect.Fields :=
  values.foldl dialect.add dialect.empty

variable {dialect}

theorem ofList_concat (values : List dialect.Field) (field : dialect.Field) :
    dialect.ofList (values ++ [field]) = dialect.add (dialect.ofList values) field := by
  simp [ofList]

namespace Lawful

/-! ### Values -/

/-- Fields hold what decides of the values that made them. -/
theorem held_ofList (lawful : dialect.Lawful) (values : List dialect.Field) (tag : Nat) :
    dialect.held (dialect.ofList values) tag =
      dialect.deciding tag (values.filter fun field => dialect.tag field = tag) := by
  induction values using List.reverseRecOn with
  | nil => simp [ofList, lawful.held_empty, deciding]
  | append_singleton values field ih =>
    rw [ofList_concat, lawful.held_add, ih, List.filter_append]
    by_cases own : dialect.tag field = tag
    · by_cases up : dialect.linesUp tag = true <;> simp [own, up, deciding]
    · simp [own]

theorem ofList_congr (lawful : dialect.Lawful) {values others : List dialect.Field}
    (same : ∀ tag, dialect.deciding tag (values.filter fun field => dialect.tag field = tag) =
      dialect.deciding tag (others.filter fun field => dialect.tag field = tag)) :
    dialect.ofList values = dialect.ofList others := by
  apply lawful.ext
  intro tag
  rw [lawful.held_ofList, lawful.held_ofList, same]

theorem ofList_append (lawful : dialect.Lawful) (values others : List dialect.Field) :
    dialect.ofList (values ++ others) =
      dialect.overlay (dialect.ofList values) (dialect.ofList others) := by
  induction others using List.reverseRecOn with
  | nil => simp [ofList, lawful.overlay_empty]
  | append_singleton others field ih =>
    rw [← List.append_assoc, ofList_concat, ofList_concat, ih, lawful.overlay_add]

/-! ### Parts -/

/-- The value of a part has the tag of its key. -/
theorem tag_of_value? (lawful : dialect.Lawful) {part : Part} {field : dialect.Field}
    (found : dialect.schema.value? part = some field) : dialect.tag field = part.key.tag := by
  obtain ⟨spec, known, spelled⟩ := Wire.Schema.spells_of_value? found
  exact lawful.tag_of_spells known spelled

theorem filter_values (lawful : dialect.Lawful) (parts : List Part) (tag : Nat) :
    (dialect.schema.values parts).filter (fun field => dialect.tag field = tag) =
      dialect.schema.values (parts.filter fun part => part.key.tag = tag) := by
  simp only [Wire.Schema.values, List.filter_filterMap, List.filterMap_filter]
  congr 1
  funext part
  cases found : dialect.schema.value? part with
  | none => simp
  | some field => simp [Option.filter, lawful.tag_of_value? found]

theorem held_ofList_values (lawful : dialect.Lawful) (parts : List Part) (tag : Nat) :
    dialect.held (dialect.ofList (dialect.schema.values parts)) tag =
      dialect.decisive tag parts := by
  rw [lawful.held_ofList, lawful.filter_values]
  rfl

theorem decodeFields_payload (lawful : dialect.Lawful) {parts : List Part}
    (accepted : ∀ part ∈ parts, dialect.schema.Accepts part) :
    dialect.decodeFields (Part.payload parts) =
      .ok (dialect.ofList (dialect.schema.values parts)) := by
  rw [lawful.decodeFields_eq, Wire.Schema.decode_payload accepted]
  rfl

theorem decode_payload (lawful : dialect.Lawful) {parts : List Part}
    (accepted : ∀ part ∈ parts, dialect.schema.Accepts part) :
    dialect.decode (Part.payload parts) =
      dialect.ofFields (dialect.ofList (dialect.schema.values parts)) := by
  rw [lawful.decode_eq, lawful.decodeFields_payload accepted]

theorem decode_congr (lawful : dialect.Lawful) {bytes other : Bytes}
    (same : dialect.decodeFields bytes = dialect.decodeFields other) :
    dialect.decode bytes = dialect.decode other := by
  rw [lawful.decode_eq, lawful.decode_eq, same]

/-- Neighbours of different tags, with what comes before and after them. -/
theorem ofList_exchange (lawful : dialect.Lawful) {part other : Part}
    (differ : part.key.tag ≠ other.key.tag) {found otherFound : Option dialect.Field}
    (seen : dialect.schema.outcome part = .ok found)
    (otherSeen : dialect.schema.outcome other = .ok otherFound)
    (earlier later : List dialect.Field) :
    dialect.ofList (earlier ++ (found.toList ++ (otherFound.toList ++ later))) =
      dialect.ofList (earlier ++ (otherFound.toList ++ (found.toList ++ later))) := by
  have value : dialect.schema.value? part = found := by rw [Wire.Schema.value?, seen]
  have otherValue : dialect.schema.value? other = otherFound := by
    rw [Wire.Schema.value?, otherSeen]
  cases found with
  | none => rfl
  | some field =>
    cases otherFound with
    | none => rfl
    | some otherField =>
      have own := lawful.tag_of_value? value
      have otherOwn := lawful.tag_of_value? otherValue
      refine lawful.ofList_congr fun tag => ?_
      -- At most one of the two has the tag.
      by_cases this : dialect.tag field = tag
      · have not : dialect.tag otherField ≠ tag := by rw [otherOwn, ← this, own]; exact differ.symm
        simp [this, not]
      · simp [List.filter_cons, this]

theorem tolerant (lawful : dialect.Lawful) : dialect.Tolerant where
  holds parts accepted :=
    ⟨_, lawful.decodeFields_payload accepted, lawful.decode_payload accepted,
      lawful.held_ofList_values parts⟩
  depends parts others accepted othersAccepted same := by
    rw [lawful.decode_payload accepted, lawful.decode_payload othersAccepted]
    congr 1
    apply lawful.ext
    intro tag
    rw [lawful.held_ofList_values, lawful.held_ofList_values, same]
  passes before inserted after unknown := by
    apply lawful.decode_congr
    have passed : ∀ rest, dialect.schema.decode (Part.payload inserted ++ rest) =
        dialect.schema.decode rest := by
      intro rest
      induction inserted with
      | nil => rfl
      | cons part inserted ih =>
        obtain ⟨unknownTag, shallow⟩ := unknown part List.mem_cons_self
        rw [Part.payload_cons, List.append_assoc, Wire.Schema.decode_part,
          Wire.Schema.outcome_unknown unknownTag shallow,
          ih fun other mem => unknown other (List.mem_cons_of_mem _ mem)]
        cases dialect.schema.decode rest <;> rfl
    rw [lawful.decodeFields_eq, lawful.decodeFields_eq, List.append_assoc, Part.payload_append,
      Part.payload_append, Part.payload_append, Wire.Schema.decode_payload_append, passed,
      ← Wire.Schema.decode_payload_append]
  -- Both parts are read either way, and their values do not meet in any field. If one of them is
  -- refused the other is not, so that the same error is found first in both orders.
  exchanges before part other after differ accepted := by
    apply lawful.decode_congr
    simp only [lawful.decodeFields_eq, Part.payload_append, Part.payload_cons,
      Wire.Schema.decode_payload_append before, Wire.Schema.decode_part]
    cases dialect.schema.decode (Part.payload before) with
    | error error => rfl
    | ok earlier =>
      cases seen : dialect.schema.outcome part with
      | error error =>
        obtain ⟨found, otherSeen⟩ := Wire.Schema.accepts_iff.1 (accepted.resolve_left
          (Wire.Schema.not_accepts_of_error seen))
        rw [otherSeen]
        rfl
      | ok found =>
        cases otherSeen : dialect.schema.outcome other with
        | error error => rfl
        | ok otherFound =>
          cases dialect.schema.decode (Part.payload after) with
          | error error => rfl
          | ok later =>
            exact congrArg Except.ok (lawful.ofList_exchange differ seen otherSeen earlier later)
  follows parts others accepted othersAccepted := by
    refine ⟨_, _, lawful.decodeFields_payload accepted,
      lawful.decodeFields_payload othersAccepted, ?_⟩
    have all : ∀ part ∈ parts ++ others, dialect.schema.Accepts part := by
      intro part mem
      exact (List.mem_append.1 mem).elim (accepted part) (othersAccepted part)
    rw [← Part.payload_append, lawful.decode_payload all, Wire.Schema.values_append,
      lawful.ofList_append]
  refuses parts rest part mem refused := by
    obtain ⟨error, failed⟩ := Wire.Schema.decode_payload_of_refused mem refused rest
    refine ⟨error, ?_⟩
    rw [lawful.decode_eq, lawful.decodeFields_eq, failed]
    rfl

end Lawful
end Dialect

/-! ## From the agent -/

namespace AgentField

/-- The tag under which the field stands. -/
def tag : AgentField → Nat
  | .code _ => 1
  | .connectivity _ => 2
  | .imei _ => 3
  | .mac _ => 4
  | .phoneNumber _ => 5
  | .execPath _ => 6
  | .execParam _ => 7
  | .auditAck _ => 8

theorem tag_of_spells {tag : Nat} {spec : Wire.FieldSpec AgentField} {bytes : Bytes}
    {field : AgentField} (known : schema.field? tag = some spec)
    (spelled : spec.content.Spells bytes field) : field.tag = tag := by
  have known : spec? tag = some spec := known
  unfold spec? at known
  split at known <;> cases known <;> cases spelled <;> rfl

end AgentField

namespace AgentFields

/-- What the fields hold under a tag. -/
def held (fields : AgentFields) : (tag : Nat) → List AgentField
  | 1 => (fields.code.map .code).toList
  | 2 => (fields.connectivity.map .connectivity).toList
  | 3 => (fields.imei.map .imei).toList
  | 4 => (fields.mac.map .mac).toList
  | 5 => (fields.phoneNumber.map .phoneNumber).toList
  | 6 => (fields.execPath.map .execPath).toList
  | 7 => fields.execParams.map .execParam
  | 8 => (fields.auditAck.map .auditAck).toList
  | _ => []

/-- Earlier fields, and later ones over them: what is present later replaces what was there, and
parameters line up. -/
def overlay (earlier later : AgentFields) : AgentFields where
  code := later.code.or earlier.code
  connectivity := later.connectivity.or earlier.connectivity
  imei := later.imei.or earlier.imei
  mac := later.mac.or earlier.mac
  phoneNumber := later.phoneNumber.or earlier.phoneNumber
  execPath := later.execPath.or earlier.execPath
  execParams := earlier.execParams ++ later.execParams
  auditAck := later.auditAck.or earlier.auditAck

theorem overlay_empty (earlier : AgentFields) : earlier.overlay {} = earlier := by simp [overlay]

theorem overlay_add (earlier later : AgentFields) (field : AgentField) :
    earlier.overlay (later.add field) = (earlier.overlay later).add field := by
  cases field <;> simp [overlay, add]

theorem toList_eq (fields : AgentFields) :
    fields.toList = [1, 2, 3, 4, 5, 6, 7, 8].flatMap fields.held := by
  simp [toList, held]

theorem ext_held {fields other : AgentFields} (same : ∀ tag, fields.held tag = other.held tag) :
    fields = other := by
  rw [← ofList_toList fields, ← ofList_toList other, toList_eq, toList_eq, funext same]

theorem held_add (fields : AgentFields) (field : AgentField) (tag : Nat) :
    (fields.add field).held tag =
      if field.tag = tag then if tag == 7 then fields.held tag ++ [field] else [field]
      else fields.held tag := by
  unfold held
  cases field <;> split <;> simp_all [add, AgentField.tag, eq_comm]

end AgentFields

/-- How messages from the agent are read. -/
def AgentMessage.dialect : Dialect where
  Field := AgentField
  Fields := AgentFields
  Message := AgentMessage
  schema := AgentField.schema
  tag := AgentField.tag
  linesUp := (· == 7)
  empty := {}
  add := AgentFields.add
  held := AgentFields.held
  overlay := AgentFields.overlay
  decodeFields := AgentFields.decode
  ofFields := AgentMessage.ofFields
  decode := AgentMessage.decode

theorem AgentMessage.dialect_lawful : dialect.Lawful where
  tag_of_spells := AgentField.tag_of_spells
  decodeFields_eq _ := rfl
  decode_eq payload := by
    have fields : dialect.decodeFields payload = AgentFields.decode payload := rfl
    show AgentMessage.decode payload = _
    rw [AgentMessage.decode, fields]
    cases AgentFields.decode payload <;> rfl
  held_empty tag := by
    show AgentFields.held {} tag = []
    unfold AgentFields.held
    split <;> rfl
  held_add := AgentFields.held_add
  ext _ _ := AgentFields.ext_held
  overlay_empty := AgentFields.overlay_empty
  overlay_add := AgentFields.overlay_add

/-! ## From the host -/

namespace HostField

/-- The tag under which the field stands. -/
def tag : HostField → Nat
  | .code _ => 1
  | .connectivity _ => 2
  | .containerName _ => 3
  | .containerDns _ => 4
  | .auditRecord _ => 5
  | .remainingStorage _ => 6

theorem tag_of_spells {tag : Nat} {spec : Wire.FieldSpec HostField} {bytes : Bytes}
    {field : HostField} (known : schema.field? tag = some spec)
    (spelled : spec.content.Spells bytes field) : field.tag = tag := by
  have known : spec? tag = some spec := known
  unfold spec? at known
  split at known <;> cases known <;> cases spelled <;> rfl

end HostField

namespace HostFields

/-- What the fields hold under a tag. -/
def held (fields : HostFields) : (tag : Nat) → List HostField
  | 1 => (fields.code.map .code).toList
  | 2 => (fields.connectivity.map .connectivity).toList
  | 3 => (fields.containerName.map .containerName).toList
  | 4 => (fields.containerDns.map .containerDns).toList
  | 5 => (fields.auditRecord.map .auditRecord).toList
  | 6 => (fields.remainingStorage.map .remainingStorage).toList
  | _ => []

/-- Earlier fields, and later ones over them: what is present later replaces what was there. -/
def overlay (earlier later : HostFields) : HostFields where
  code := later.code.or earlier.code
  connectivity := later.connectivity.or earlier.connectivity
  containerName := later.containerName.or earlier.containerName
  containerDns := later.containerDns.or earlier.containerDns
  auditRecord := later.auditRecord.or earlier.auditRecord
  remainingStorage := later.remainingStorage.or earlier.remainingStorage

theorem overlay_empty (earlier : HostFields) : earlier.overlay {} = earlier := by simp [overlay]

theorem overlay_add (earlier later : HostFields) (field : HostField) :
    earlier.overlay (later.add field) = (earlier.overlay later).add field := by
  cases field <;> simp [overlay, add]

theorem toList_eq (fields : HostFields) :
    fields.toList = [1, 2, 3, 4, 5, 6].flatMap fields.held := by
  simp [toList, held]

theorem ext_held {fields other : HostFields} (same : ∀ tag, fields.held tag = other.held tag) :
    fields = other := by
  rw [← ofList_toList fields, ← ofList_toList other, toList_eq, toList_eq, funext same]

theorem held_add (fields : HostFields) (field : HostField) (tag : Nat) :
    (fields.add field).held tag = if field.tag = tag then [field] else fields.held tag := by
  unfold held
  cases field <;> split <;> simp_all [add, HostField.tag, eq_comm]

end HostFields

/-- How messages from the host are read. -/
def HostMessage.dialect : Dialect where
  Field := HostField
  Fields := HostFields
  Message := HostMessage
  schema := HostField.schema
  tag := HostField.tag
  linesUp _ := false
  empty := {}
  add := HostFields.add
  held := HostFields.held
  overlay := HostFields.overlay
  decodeFields := HostFields.decode
  ofFields := HostMessage.ofFields
  decode := HostMessage.decode

theorem HostMessage.dialect_lawful : dialect.Lawful where
  tag_of_spells := HostField.tag_of_spells
  decodeFields_eq _ := rfl
  decode_eq payload := by
    have fields : dialect.decodeFields payload = HostFields.decode payload := rfl
    show HostMessage.decode payload = _
    rw [HostMessage.decode, fields]
    cases HostFields.decode payload <;> rfl
  held_empty tag := by
    show HostFields.held {} tag = []
    unfold HostFields.held
    split <;> rfl
  held_add fields field tag := HostFields.held_add fields field tag
  ext _ _ := HostFields.ext_held
  overlay_empty := HostFields.overlay_empty
  overlay_add := HostFields.overlay_add

/-! ## Both directions -/

/-- In both directions the last occurrence of each field decides, and all the parameters in their
order. Fields that nobody knows change nothing, neighbours of different tags may change places, and
a payload behind another one is read as its fields over those of the other. -/
theorem dialects_tolerant : AgentMessage.dialect.Tolerant ∧ HostMessage.dialect.Tolerant :=
  ⟨AgentMessage.dialect_lawful.tolerant, HostMessage.dialect_lawful.tolerant⟩

end ServiceChannel
