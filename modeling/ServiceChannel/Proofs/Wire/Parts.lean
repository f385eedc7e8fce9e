import ServiceChannel.Proofs.Wire.Grammar

/-!
# Parts of payloads

A part is one field as it stands on the wire: a key, and content in the layout that the key names,
whatever its tag stands for. What a schema makes of a part depends on nothing that follows it: the
part alone says where it ends.

- `Laid`: content in the layout of a key, groups nested up to some height.
- `Schema.outcome`: what a schema makes of a part, be it a value, nothing or an error.
- `Schema.readField_part`: reading the part first, whatever follows.
- `Schema.decode_payload`: reading parts first, whatever follows.
-/

namespace ServiceChannel.Wire

/-! ## Layout -/

/-- What stands in a group behind the key that starts it: fields of any tag, and at last the key
that ends the group. Other groups inside nest at most `height` deep. -/
inductive Inside : (height tag : Nat) → Bytes → Prop where
  | done {height tag : Nat} {bytes : Bytes} (ends : Key.Spells bytes ⟨tag, .endGroup⟩) :
    Inside height tag bytes
  | plain {height tag : Nat} {key : Key} {lead content rest : Bytes} (keyed : Key.Spells lead key)
    (plain : Plain key.type content) (later : Inside height tag rest) :
    Inside height tag (lead ++ (content ++ rest))
  | group {height tag inner : Nat} {lead content rest : Bytes}
    (keyed : Key.Spells lead ⟨inner, .startGroup⟩) (nested : Inside height inner content)
    (later : Inside (height + 1) tag rest) :
    Inside (height + 1) tag (lead ++ (content ++ rest))

/-- Content in the layout that its key names. Groups nest at most `height` deep. -/
inductive Laid : (height : Nat) → Key → Bytes → Prop where
  | plain {height : Nat} {key : Key} {bytes : Bytes} (content : Plain key.type bytes) :
    Laid height key bytes
  | group {height tag : Nat} {bytes : Bytes} (inside : Inside height tag bytes) :
    Laid (height + 1) ⟨tag, .startGroup⟩ bytes

theorem grouped_of_inside {height tag : Nat} {bytes : Bytes} (inside : Inside height tag bytes)
    {depth : Nat} (shallow : depth + height < groupLimit) : Grouped depth tag bytes := by
  induction inside generalizing depth with
  | done ends => exact .done ends
  | plain keyed plain _ ih => exact .plain (by omega) keyed plain (ih shallow)
  | group keyed _ _ nestedIh laterIh =>
    exact .group (by omega) keyed (nestedIh (by omega)) (laterIh shallow)

/-- Content whose groups nest less deep than the limit is passed over. -/
theorem unknown_of_laid {height : Nat} {key : Key} {bytes : Bytes} (laid : Laid height key bytes)
    (shallow : height < groupLimit) : Unknown key bytes := by
  cases laid with
  | plain content => exact .plain content
  | group inside => exact .group (grouped_of_inside inside (by omega))

theorem skipGroups_deep {tag : Nat} {outer : List Nat} {key : Key} {input rest : Bytes}
    (deep : groupLimit ≤ outer.length + 1) (field : key.type ≠ .endGroup)
    (found : Key.read input = .ok (key, rest)) :
    skipGroups (tag :: outer) input = .error .recursionLimit := by
  rw [skipGroups]
  split
  · rename_i other
    rw [found] at other
    cases other
  · rename_i other
    rw [found] at other
    cases other
    rw [if_neg field, if_pos (by simpa using deep)]

/-- The rest of a group is passed over, or fails for its depth whatever follows it. -/
theorem grouped_or_deep {height tag : Nat} {bytes : Bytes} (inside : Inside height tag bytes)
    (outer : List Nat) : Grouped (outer.length + 1) tag bytes ∨
      ∀ rest, skipGroups (tag :: outer) (bytes ++ rest) = .error .recursionLimit := by
  induction inside generalizing outer with
  | done ends => exact .inl (.done ends)
  | @plain height tag key lead content later keyed plain _ ih =>
    have found (rest : Bytes) : Key.read (lead ++ (content ++ later) ++ rest) =
        .ok (key, content ++ (later ++ rest)) := Key.read_eq_ok_iff.2 ⟨lead, by simp, keyed⟩
    by_cases shallow : outer.length + 1 < groupLimit
    · rcases ih outer with grouped | deep
      · exact .inl (.plain shallow keyed plain grouped)
      · refine .inr fun rest => ?_
        have skipped := skipPlain_of_plain plain (later ++ rest)
        rw [skipGroups_plain shallow plain.type_ne (found rest) skipped, deep]
    · exact .inr fun rest => skipGroups_deep (by omega) plain.type_ne.2 (found rest)
  | @group height tag inner lead content later keyed _ _ nestedIh laterIh =>
    have found (rest : Bytes) : Key.read (lead ++ (content ++ later) ++ rest) =
        .ok (⟨inner, .startGroup⟩, content ++ (later ++ rest)) :=
      Key.read_eq_ok_iff.2 ⟨lead, by simp, keyed⟩
    by_cases shallow : outer.length + 1 < groupLimit
    · rcases nestedIh (tag :: outer) with nested | deep
      · rcases laterIh outer with grouped | deep
        · exact .inl (.group shallow keyed nested grouped)
        · refine .inr fun rest => ?_
          rw [skipGroups_start shallow (found rest), skipGroups_of_grouped nested _ rfl, deep]
      · refine .inr fun rest => ?_
        rw [skipGroups_start shallow (found rest), deep]
    · have field : WireType.startGroup ≠ .endGroup := by decide
      exact .inr fun rest => skipGroups_deep (by omega) field (found rest)

theorem unknown_or_deep {height : Nat} {key : Key} {bytes : Bytes} (laid : Laid height key bytes) :
    Unknown key bytes ∨ ∀ rest, skip key (bytes ++ rest) = .error .recursionLimit := by
  cases laid with
  | plain content => exact .inl (.plain content)
  | group inside =>
    rcases grouped_or_deep inside [] with grouped | deep
    · exact .inl (.group grouped)
    · refine .inr fun rest => ?_
      rw [skip, if_pos rfl, deep]

theorem plain_of_laid {height : Nat} {key : Key} {bytes : Bytes} (laid : Laid height key bytes)
    (noGroup : key.type ≠ .startGroup) : Plain key.type bytes := by
  cases laid with
  | plain content => exact content
  | group inside => exact absurd rfl noGroup

/-- Content in the layout of a known field has a value, or is a text that is no UTF-8. -/
theorem Content.spells_or_notUtf8 {Field : Type} {content : Content Field} {bytes : Bytes}
    (plain : Plain content.wireType bytes) :
    (∃ field, content.Spells bytes field) ∨
      ∀ rest, content.read (bytes ++ rest) = .error .notUtf8 := by
  cases content with
  | enumeration make =>
    cases plain with
    | varint spelled => exact .inl ⟨_, .enumeration spelled⟩
  | unsigned make =>
    cases plain with
    | varint spelled => exact .inl ⟨_, .unsigned spelled⟩
  | text make =>
    cases plain with
    | @lengthDelimited _ content spelled =>
      cases valid : Bytes.text? content with
      | some text =>
        obtain rfl := Bytes.text?_eq_some_iff.1 valid
        exact .inl ⟨_, .text spelled⟩
      | none =>
        refine .inr fun rest => ?_
        have found : readDelimited (bytes ++ rest) = .ok (content, rest) :=
          readDelimited_eq_ok_iff.2 ⟨bytes, rfl, spelled⟩
        simp only [read, found, valid]
  | blob make =>
    cases plain with
    | lengthDelimited spelled => exact .inl ⟨_, .blob spelled⟩

/-! ## Parts -/

/-- A field as it stands on the wire: a key, and content in the layout that it names. -/
structure Part where
  key : Key
  lead : Bytes
  content : Bytes
  /-- Groups nest at most this deep. -/
  height : Nat
  keyed : Key.Spells lead key
  laid : Laid height key content

namespace Part

def bytes (part : Part) : Bytes := part.lead ++ part.content

/-- The payload of some parts, one after the other. -/
def payload (parts : List Part) : Bytes := parts.flatMap bytes

@[simp] theorem payload_nil : payload [] = [] := rfl

@[simp] theorem payload_cons (part : Part) (parts : List Part) :
    payload (part :: parts) = part.bytes ++ payload parts := rfl

@[simp] theorem payload_append (parts others : List Part) :
    payload (parts ++ others) = payload parts ++ payload others :=
  List.flatMap_append

theorem keyRead (part : Part) (rest : Bytes) :
    Key.read (part.bytes ++ rest) = .ok (part.key, part.content ++ rest) :=
  Key.read_eq_ok_iff.2 ⟨part.lead, List.append_assoc .., part.keyed⟩

end Part

/-! ## What a schema makes of a part -/

namespace Schema

variable {Field : Type} (schema : Schema Field)

/-- What a schema makes of a part: a value, nothing, or an error. -/
def outcome (part : Part) : Except DecodeError (Option Field) :=
  (schema.readField part.bytes).map Prod.fst

/-- A schema accepts a part of a known tag that spells a value of its field, and a part of an
unknown tag whose groups are not too deep. -/
def Accepts (part : Part) : Prop := ∃ found, schema.FieldSpells found part.bytes

/-- The value that a schema sees in a part, if any. -/
def value? (part : Part) : Option Field :=
  match schema.outcome part with
  | .ok found => found
  | .error _ => none

/-- The values that a schema sees in some parts, in their order. -/
def values (parts : List Part) : List Field := parts.filterMap schema.value?

variable {schema}

theorem readField_known {part : Part} {spec : FieldSpec Field}
    (known : schema.field? part.key.tag = some spec) :
    (∃ found, schema.FieldSpells found part.bytes) ∨
      ∃ error, ∀ rest, schema.readField (part.bytes ++ rest) = .error error := by
  by_cases layout : part.key.type = spec.content.wireType
  · have noGroup : spec.content.wireType ≠ .startGroup := by cases spec.content <;> nofun
    have plain := layout ▸ plain_of_laid part.laid (layout ▸ noGroup)
    rcases Content.spells_or_notUtf8 plain with ⟨field, spelled⟩ | unreadable
    · exact .inl ⟨some field, .known part.keyed known layout spelled⟩
    · refine .inr ⟨⟨some ⟨schema.name, spec.name⟩, .notUtf8⟩, fun rest => ?_⟩
      simp only [readField, part.keyRead, known, Content.readAs, if_pos layout, unreadable]
  · refine .inr ⟨⟨some ⟨schema.name, spec.name⟩,
      .wireTypeMismatch part.key.type spec.content.wireType⟩, fun rest => ?_⟩
    simp only [readField, part.keyRead, known, Content.readAs, if_neg layout]

theorem readField_unknown {part : Part} (unknown : schema.field? part.key.tag = none) :
    (∃ found, schema.FieldSpells found part.bytes) ∨
      ∃ error, ∀ rest, schema.readField (part.bytes ++ rest) = .error error := by
  rcases unknown_or_deep part.laid with spelled | deep
  · exact .inl ⟨none, .unknown part.keyed unknown spelled⟩
  · refine .inr ⟨⟨none, .recursionLimit⟩, fun rest => ?_⟩
    simp only [readField, part.keyRead, unknown, deep]

/-- A part is accepted, or it is refused for the same reason whatever follows it. -/
theorem accepts_or_refuses (schema : Schema Field) (part : Part) :
    schema.Accepts part ∨
      ∃ error, ∀ rest, schema.readField (part.bytes ++ rest) = .error error := by
  cases spec : schema.field? part.key.tag with
  | some spec => exact readField_known spec
  | none => exact readField_unknown spec

theorem outcome_eq_ok_iff {part : Part} {found : Option Field} :
    schema.outcome part = .ok found ↔ schema.FieldSpells found part.bytes := by
  constructor
  · intro h
    obtain ⟨⟨found, rest⟩, read, rfl⟩ := map_eq_ok_iff.1 h
    rcases accepts_or_refuses schema part with ⟨other, spelled⟩ | ⟨error, refused⟩
    · have whole := readField_eq_ok_iff.2 ⟨part.bytes, (List.append_nil _).symm, spelled⟩
      rw [whole] at read
      cases read
      exact spelled
    · have failed := refused []
      rw [List.append_nil, read] at failed
      cases failed
  · intro spelled
    have whole := readField_eq_ok_iff.2 ⟨part.bytes, (List.append_nil _).symm, spelled⟩
    rw [outcome, whole]
    rfl

/-- The value in a part is spelled by its content, as the field of its tag has it. -/
theorem spells_of_value? {part : Part} {field : Field} (found : schema.value? part = some field) :
    ∃ spec, schema.field? part.key.tag = some spec ∧ spec.content.Spells part.content field := by
  have spelled : schema.FieldSpells (some field) part.bytes := by
    unfold value? at found
    split at found
    · rename_i seen
      exact outcome_eq_ok_iff.1 (found ▸ seen)
    · cases found
  have keyRead := part.keyRead []
  rw [List.append_nil, List.append_nil] at keyRead
  generalize part.bytes = bytes at spelled keyRead
  cases spelled with
  | @known key spec lead content field keyed known layout spelled =>
    have other : Key.read (lead ++ content) = .ok (key, content) :=
      Key.read_eq_ok_iff.2 ⟨lead, rfl, keyed⟩
    rw [other] at keyRead
    cases keyRead
    exact ⟨spec, known, spelled⟩

/-- What follows a part has no influence on what a schema makes of it. -/
theorem readField_part (part : Part) (rest : Bytes) :
    schema.readField (part.bytes ++ rest) = (schema.outcome part).map (·, rest) := by
  rcases accepts_or_refuses schema part with ⟨found, spelled⟩ | ⟨error, refused⟩
  · rw [outcome_eq_ok_iff.2 spelled, readField_eq_ok_iff.2 ⟨part.bytes, rfl, spelled⟩]
    rfl
  · have alone := refused []
    rw [List.append_nil] at alone
    rw [refused, outcome, alone]
    rfl

theorem accepts_iff {part : Part} :
    schema.Accepts part ↔ ∃ found, schema.outcome part = .ok found := by
  simp only [Accepts, outcome_eq_ok_iff]

theorem not_accepts_of_error {part : Part} {error : DecodeError}
    (seen : schema.outcome part = .error error) : ¬ schema.Accepts part := by
  rw [accepts_iff, seen]
  rintro ⟨found, accepted⟩
  cases accepted

/-- A part of an unknown tag is accepted for nothing when its groups are not too deep. -/
theorem outcome_unknown {part : Part} (unknown : schema.field? part.key.tag = none)
    (shallow : part.height < groupLimit) : schema.outcome part = .ok none :=
  outcome_eq_ok_iff.2 (.unknown part.keyed unknown (unknown_of_laid part.laid shallow))

/-! ## Payloads of parts -/

theorem decode_part (part : Part) (rest : Bytes) :
    schema.decode (part.bytes ++ rest) =
      match schema.outcome part with
      | .error error => .error error
      | .ok found => (schema.decode rest).map (found.toList ++ ·) := by
  have read : schema.readField (part.bytes ++ rest) = (schema.outcome part).map (·, rest) :=
    readField_part part rest
  cases seen : schema.outcome part with
  | ok found =>
    rw [seen] at read
    exact decode_of_readField read
  | error error =>
    rw [seen] at read
    cases whole : part.bytes ++ rest with
    | nil =>
      -- Of no bytes at all not even a key is read.
      have keyed := part.keyRead rest
      rw [whole] at keyed
      exact absurd (Key.read_length_lt keyed) (Nat.not_lt_zero _)
    | cons byte tail =>
      rw [whole] at read
      exact decode_of_error read

@[simp] theorem values_append (parts others : List Part) :
    schema.values (parts ++ others) = schema.values parts ++ schema.values others :=
  List.filterMap_append

theorem values_cons {part : Part} {found : Option Field} (seen : schema.outcome part = .ok found)
    (parts : List Part) :
    schema.values (part :: parts) = found.toList ++ schema.values parts := by
  cases found <;> simp [values, value?, seen]

/-- Parts that are all accepted are read as their values. -/
theorem decode_payload {parts : List Part} (accepted : ∀ part ∈ parts, schema.Accepts part) :
    schema.decode (Part.payload parts) = .ok (schema.values parts) := by
  induction parts with
  | nil => exact decode_nil schema
  | cons part parts ih =>
    obtain ⟨found, seen⟩ := accepts_iff.1 (accepted part List.mem_cons_self)
    have later := ih fun other mem => accepted other (List.mem_cons_of_mem _ mem)
    rw [Part.payload_cons, decode_part, seen, later, values_cons seen]
    rfl

/-- Parts are read before what follows them, and their first error is the error of all. -/
theorem decode_payload_append (parts : List Part) (rest : Bytes) :
    schema.decode (Part.payload parts ++ rest) =
      match schema.decode (Part.payload parts) with
      | .error error => .error error
      | .ok values => (schema.decode rest).map (values ++ ·) := by
  induction parts with
  | nil => cases same : schema.decode rest <;> simp [same, Except.map]
  | cons part parts ih =>
    rw [Part.payload_cons, List.append_assoc, decode_part, decode_part, ih]
    cases schema.outcome part with
    | error error => rfl
    | ok found =>
      cases schema.decode (Part.payload parts) with
      | error error => rfl
      | ok values => cases schema.decode rest <;> simp [Except.map]

/-- A part that is not accepted spoils every payload in which it stands. -/
theorem decode_payload_of_refused {parts : List Part} {part : Part} (mem : part ∈ parts)
    (refused : ¬ schema.Accepts part) (rest : Bytes) :
    ∃ error, schema.decode (Part.payload parts ++ rest) = .error error := by
  obtain ⟨before, after, rfl⟩ := List.append_of_mem mem
  rw [Part.payload_append, List.append_assoc, decode_payload_append, Part.payload_cons,
    List.append_assoc, decode_part]
  cases schema.decode (Part.payload before) with
  | error error => exact ⟨error, rfl⟩
  | ok values =>
    cases seen : schema.outcome part with
    | error error => exact ⟨error, rfl⟩
    | ok found => exact absurd (accepts_iff.2 ⟨found, seen⟩) refused

end Schema

end ServiceChannel.Wire
