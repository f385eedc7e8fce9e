import ServiceChannel.Wire.Schema

/-!
# The grammar of payloads

What a payload is, said without reading it: how numbers, keys, content, groups and fields are
spelled in bytes. A reader accepts what is spelled, whatever follows it, and nothing else.

- `Varint.Spells`, `Key.Spells`, `Content.Spells`: numbers, keys, and the content of known fields.
- `Unknown`: the content of a field that nobody knows, groups among them.
- `Schema.Spells`: a payload with its known fields.
- `Schema.decode_eq_ok_iff`: reading a payload gives the fields that it spells.
-/

namespace ServiceChannel

/-! ## Texts -/

theorem Bytes.text?_eq_some_iff {bytes : Bytes} {text : String} :
    text? bytes = some text ↔ bytes = ofText text := by
  constructor
  · intro h
    simp only [text?, String.fromUTF8?] at h
    split at h
    · cases h
      simp [ofText, String.fromUTF8]
    · cases h
  · rintro rfl
    exact text?_ofText text

namespace Wire

theorem map_eq_ok_iff {Error Found Made : Type} {make : Found → Made}
    {result : Except Error Found} {made : Made} :
    result.map make = .ok made ↔ ∃ found, result = .ok found ∧ make found = made := by
  cases result <;> simp [Except.map]

/-! ## Numbers -/

namespace Varint

/-- Bytes that stand for a number, seven bits each, the least significant first. Every byte but the
last has its high bit set. -/
inductive Digits : Bytes → Nat → Prop where
  | last {byte : UInt8} (low : byte.toNat < 128) : Digits [byte] byte.toNat
  | more {byte : UInt8} {rest : Bytes} {high : Nat} (goesOn : 128 ≤ byte.toNat)
    (later : Digits rest high) : Digits (byte :: rest) (byte.toNat - 128 + 128 * high)

/-- Bytes that spell a number: at most ten, for at most sixty-four bits. -/
structure Spells (bytes : Bytes) (number : Nat) : Prop where
  digits : Digits bytes number
  length_le : bytes.length ≤ 10
  lt : number < UInt64.size

theorem digits_of_readGroups {groups number : Nat} {input rest : Bytes}
    (read : readGroups groups input = some (number, rest)) :
    ∃ front, input = front ++ rest ∧ Digits front number ∧ front.length ≤ groups := by
  induction groups generalizing input number with
  | zero => simp [readGroups] at read
  | succ groups ih =>
    cases input with
    | nil => simp [readGroups] at read
    | cons byte tail =>
      rw [readGroups] at read
      split at read
      · rename_i low
        split at read
        · cases read
        · cases read
          exact ⟨[byte], rfl, .last low, by simp⟩
      · rename_i high
        obtain ⟨⟨later, left⟩, found, same⟩ := Option.map_eq_some_iff.1 read
        cases same
        obtain ⟨front, rfl, digits, short⟩ := ih found
        exact ⟨byte :: front, rfl, .more (Nat.le_of_not_lt high) digits, by simpa using short⟩

theorem readGroups_of_digits {bytes : Bytes} {number : Nat} (digits : Digits bytes number)
    (rest : Bytes) {groups : Nat} (short : bytes.length ≤ groups + 1)
    (bound : number < ceiling groups) :
    readGroups (groups + 1) (bytes ++ rest) = some (number, rest) := by
  induction digits generalizing groups with
  | last low =>
    rw [List.singleton_append, readGroups, if_pos low, if_neg]
    rintro ⟨rfl, large⟩
    rw [ceiling] at bound
    omega
  | @more byte tail high goesOn later ih =>
    cases groups with
    | zero =>
      -- The number would have to end with this byte.
      cases later <;> simp at short
    | succ groups =>
      have tailShort : tail.length ≤ groups + 1 := by simpa using short
      have tailBound : high < ceiling groups := by
        rw [ceiling] at bound
        omega
      rw [List.cons_append, readGroups, if_neg (Nat.not_lt.2 goesOn), ih tailShort tailBound]
      rfl

theorem read_eq_ok_iff {input rest : Bytes} {number : Nat} :
    read input = .ok (number, rest) ↔ ∃ front, input = front ++ rest ∧ Spells front number := by
  constructor
  · intro h
    have bound := read_lt h
    simp only [read] at h
    split at h
    · rename_i found
      cases h
      obtain ⟨front, split, digits, short⟩ := digits_of_readGroups found
      exact ⟨front, split, digits, short, bound⟩
    · cases h
  · rintro ⟨front, rfl, digits, short, bound⟩
    have found := readGroups_of_digits digits rest short (show number < ceiling 9 from bound)
    simp [read, found]

end Varint

/-! ## Keys -/

theorem WireType.ofNumber?_eq_some_iff {number : Nat} {type : WireType} :
    ofNumber? number = some type ↔ number = type.number := by
  constructor
  · intro h
    unfold ofNumber? at h
    split at h <;> cases h <;> rfl
  · rintro rfl
    exact ofNumber?_number type

namespace Key

/-- Bytes that spell a key: a number of at most thirty-two bits, with a tag that is not zero. -/
structure Spells (bytes : Bytes) (key : Key) : Prop where
  number : Varint.Spells bytes key.toNat
  lt : key.toNat < UInt32.size
  tag_pos : 0 < key.tag

theorem ofNat_eq_ok_iff {number : Nat} {key : Key} :
    ofNat number = .ok key ↔ number = key.toNat ∧ number < UInt32.size ∧ 0 < key.tag := by
  constructor
  · intro h
    unfold ofNat at h
    split at h
    · cases h
    · rename_i small
      split at h
      · cases h
      · rename_i type found
        split at h
        · cases h
        · cases h
          have low := WireType.ofNumber?_eq_some_iff.1 found
          simp only [toNat]
          omega
  · rintro ⟨rfl, small, tagPos⟩
    refine ofNat_toNat tagPos ?_
    simp only [toNat, UInt32.size] at small
    simp only [tagLimit, UInt32.size]
    omega

theorem read_eq_ok_iff {input rest : Bytes} {key : Key} :
    read input = .ok (key, rest) ↔ ∃ front, input = front ++ rest ∧ Spells front key := by
  constructor
  · intro h
    unfold read at h
    split at h
    · cases h
    · rename_i number left found
      cases keyed : ofNat number with
      | error fault => simp [keyed, Except.map] at h
      | ok known =>
        simp only [keyed, Except.map, Except.ok.injEq, Prod.mk.injEq] at h
        obtain ⟨rfl, rfl⟩ := h
        obtain ⟨front, split, spells⟩ := Varint.read_eq_ok_iff.1 found
        obtain ⟨rfl, small, tagPos⟩ := ofNat_eq_ok_iff.1 keyed
        exact ⟨front, split, spells, small, tagPos⟩
  · rintro ⟨front, rfl, spells, small, tagPos⟩
    have found : Varint.read (front ++ rest) = .ok (key.toNat, rest) :=
      Varint.read_eq_ok_iff.2 ⟨front, rfl, spells⟩
    have keyed := ofNat_eq_ok_iff.2 ⟨rfl, small, tagPos⟩
    simp [read, found, keyed, Except.map]

end Key

/-! ## Content of a given length -/

/-- Content behind its length. -/
def Delimits (bytes content : Bytes) : Prop :=
  ∃ lead, Varint.Spells lead content.length ∧ bytes = lead ++ content

theorem takeBytes_eq_ok_iff {count : Nat} {input front rest : Bytes} :
    takeBytes count input = .ok (front, rest) ↔ input = front ++ rest ∧ front.length = count := by
  unfold takeBytes
  rw [← Bytes.split?_eq_some_iff]
  cases Bytes.split? count input <;> simp

theorem readDelimited_eq_ok_iff {input content rest : Bytes} :
    readDelimited input = .ok (content, rest) ↔
      ∃ front, input = front ++ rest ∧ Delimits front content := by
  constructor
  · intro h
    unfold readDelimited at h
    split at h
    · cases h
    · rename_i count left found
      obtain ⟨lead, rfl, spells⟩ := Varint.read_eq_ok_iff.1 found
      obtain ⟨rfl, rfl⟩ := takeBytes_eq_ok_iff.1 h
      exact ⟨lead ++ content, by simp, lead, spells, rfl⟩
  · rintro ⟨-, rfl, lead, spells, rfl⟩
    have found : Varint.read (lead ++ content ++ rest) = .ok (content.length, content ++ rest) :=
      Varint.read_eq_ok_iff.2 ⟨lead, by simp, spells⟩
    unfold readDelimited
    rw [found]
    exact takeBytes_eq_ok_iff.2 ⟨rfl, rfl⟩

/-! ## Content of known fields -/

namespace Content

variable {Field : Type}

/-- Bytes that spell the content of a known field, and the value that they make. -/
inductive Spells : Content Field → Bytes → Field → Prop where
  | enumeration {make : Int32 → Field} {bytes : Bytes} {number : Nat}
    (spelled : Varint.Spells bytes number) :
    Spells (.enumeration make) bytes (make (UInt32.ofNat number).toInt32)
  | unsigned {make : UInt64 → Field} {bytes : Bytes} {number : Nat}
    (spelled : Varint.Spells bytes number) :
    Spells (.unsigned make) bytes (make (UInt64.ofNat number))
  | text {make : String → Field} {bytes : Bytes} {text : String}
    (spelled : Delimits bytes (Bytes.ofText text)) : Spells (.text make) bytes (make text)
  | blob {make : Bytes → Field} {bytes content : Bytes} (spelled : Delimits bytes content) :
    Spells (.blob make) bytes (make content)

theorem spells_of_read {content : Content Field} {input rest : Bytes} {field : Field}
    (h : content.read input = .ok (field, rest)) :
    ∃ front, input = front ++ rest ∧ content.Spells front field := by
  cases content <;> simp only [read] at h
  case enumeration make =>
    obtain ⟨⟨number, left⟩, found, same⟩ := map_eq_ok_iff.1 h
    cases same
    obtain ⟨front, split, spelled⟩ := Varint.read_eq_ok_iff.1 found
    exact ⟨front, split, .enumeration spelled⟩
  case unsigned make =>
    obtain ⟨⟨number, left⟩, found, same⟩ := map_eq_ok_iff.1 h
    cases same
    obtain ⟨front, split, spelled⟩ := Varint.read_eq_ok_iff.1 found
    exact ⟨front, split, .unsigned spelled⟩
  case text make =>
    split at h
    · cases h
    · rename_i found
      split at h
      · rename_i valid
        cases h
        obtain ⟨front, split, spelled⟩ := readDelimited_eq_ok_iff.1 found
        rw [Bytes.text?_eq_some_iff.1 valid] at spelled
        exact ⟨front, split, .text spelled⟩
      · cases h
  case blob make =>
    obtain ⟨⟨content, left⟩, found, same⟩ := map_eq_ok_iff.1 h
    cases same
    obtain ⟨front, split, spelled⟩ := readDelimited_eq_ok_iff.1 found
    exact ⟨front, split, .blob spelled⟩

theorem read_of_spells {content : Content Field} {front : Bytes} {field : Field}
    (spells : content.Spells front field) (rest : Bytes) :
    content.read (front ++ rest) = .ok (field, rest) := by
  cases spells with
  | enumeration spelled | unsigned spelled =>
    rw [read, Varint.read_eq_ok_iff.2 ⟨front, rfl, spelled⟩]
    rfl
  | text spelled | blob spelled =>
    rw [read, readDelimited_eq_ok_iff.2 ⟨front, rfl, spelled⟩]
    simp [Except.map]

end Content

/-! ## Content of unknown fields -/

/-- Content whose layout alone says where it ends. -/
inductive Plain : WireType → Bytes → Prop where
  | varint {bytes : Bytes} {number : Nat} (spelled : Varint.Spells bytes number) :
    Plain .varint bytes
  | sixtyFourBit {bytes : Bytes} (length_eq : bytes.length = 8) : Plain .sixtyFourBit bytes
  | lengthDelimited {bytes content : Bytes} (spelled : Delimits bytes content) :
    Plain .lengthDelimited bytes
  | thirtyTwoBit {bytes : Bytes} (length_eq : bytes.length = 4) : Plain .thirtyTwoBit bytes

/-- What stands in a group behind the key that starts it: fields, and at last the key that ends it,
which names the same tag. `depth` counts the open groups, this one among them. -/
inductive Grouped : (depth tag : Nat) → Bytes → Prop where
  | done {depth tag : Nat} {bytes : Bytes} (ends : Key.Spells bytes ⟨tag, .endGroup⟩) :
    Grouped depth tag bytes
  | plain {depth tag : Nat} {key : Key} {lead content rest : Bytes} (shallow : depth < groupLimit)
    (keyed : Key.Spells lead key) (plain : Plain key.type content)
    (later : Grouped depth tag rest) : Grouped depth tag (lead ++ (content ++ rest))
  | group {depth tag inner : Nat} {lead content rest : Bytes} (shallow : depth < groupLimit)
    (keyed : Key.Spells lead ⟨inner, .startGroup⟩) (nested : Grouped (depth + 1) inner content)
    (later : Grouped depth tag rest) : Grouped depth tag (lead ++ (content ++ rest))

/-- The content of a field that nobody knows. -/
inductive Unknown : Key → Bytes → Prop where
  | plain {key : Key} {bytes : Bytes} (content : Plain key.type bytes) : Unknown key bytes
  | group {tag : Nat} {bytes : Bytes} (content : Grouped 1 tag bytes) :
    Unknown ⟨tag, .startGroup⟩ bytes

theorem plain_of_skipPlain {type : WireType} (noGroup : type ≠ .startGroup) {input rest : Bytes}
    (h : skipPlain type input = .ok rest) : ∃ front, input = front ++ rest ∧ Plain type front := by
  cases type <;> simp only [skipPlain] at h
  case varint =>
    obtain ⟨⟨number, left⟩, found, rfl⟩ := map_eq_ok_iff.1 h
    obtain ⟨front, split, spelled⟩ := Varint.read_eq_ok_iff.1 found
    exact ⟨front, split, .varint spelled⟩
  case sixtyFourBit =>
    obtain ⟨⟨front, left⟩, found, rfl⟩ := map_eq_ok_iff.1 h
    obtain ⟨split, size⟩ := takeBytes_eq_ok_iff.1 found
    exact ⟨front, split, .sixtyFourBit size⟩
  case lengthDelimited =>
    obtain ⟨⟨content, left⟩, found, rfl⟩ := map_eq_ok_iff.1 h
    obtain ⟨front, split, spelled⟩ := readDelimited_eq_ok_iff.1 found
    exact ⟨front, split, .lengthDelimited spelled⟩
  case thirtyTwoBit =>
    obtain ⟨⟨front, left⟩, found, rfl⟩ := map_eq_ok_iff.1 h
    obtain ⟨split, size⟩ := takeBytes_eq_ok_iff.1 found
    exact ⟨front, split, .thirtyTwoBit size⟩
  case startGroup => exact absurd rfl noGroup
  case endGroup => cases h

theorem skipPlain_of_plain {type : WireType} {front : Bytes} (plain : Plain type front)
    (rest : Bytes) : skipPlain type (front ++ rest) = .ok rest := by
  cases plain with
  | varint spelled => rw [skipPlain, Varint.read_eq_ok_iff.2 ⟨front, rfl, spelled⟩]; rfl
  | sixtyFourBit size => rw [skipPlain, takeBytes_eq_ok_iff.2 ⟨rfl, size⟩]; rfl
  | lengthDelimited spelled => rw [skipPlain, readDelimited_eq_ok_iff.2 ⟨front, rfl, spelled⟩]; rfl
  | thirtyTwoBit size => rw [skipPlain, takeBytes_eq_ok_iff.2 ⟨rfl, size⟩]; rfl

/-- Plain content is neither the start nor the end of a group. -/
theorem Plain.type_ne {type : WireType} {bytes : Bytes} (plain : Plain type bytes) :
    type ≠ .startGroup ∧ type ≠ .endGroup := by
  cases plain <;> decide

/-- What closes some open groups, the innermost first in the list. -/
inductive Closing : List Nat → Bytes → Prop where
  | none : Closing [] []
  | one {tag : Nat} {outer : List Nat} {inside after : Bytes}
    (inner : Grouped (outer.length + 1) tag inside) (later : Closing outer after) :
    Closing (tag :: outer) (inside ++ after)

theorem closing_of_skipGroups {tags : List Nat} {input rest : Bytes}
    (h : skipGroups tags input = .ok rest) :
    ∃ front, input = front ++ rest ∧ Closing tags front := by
  induction size : input.length using Nat.strongRecOn generalizing tags input with
  | ind size ih =>
    subst size
    cases tags with
    | nil =>
      rw [skipGroups] at h
      cases h
      exact ⟨[], rfl, .none⟩
    | cons tag outer =>
      rw [skipGroups] at h
      split at h
      · cases h
      · rename_i key left found
        have shorter := Key.read_length_lt found
        obtain ⟨lead, rfl, keyed⟩ := Key.read_eq_ok_iff.1 found
        obtain ⟨number, type⟩ := key
        split at h
        · rename_i ends
          split at h
          · rename_i same
            obtain ⟨front, rfl, later⟩ := ih _ shorter h rfl
            cases ends
            cases same
            exact ⟨lead ++ front, by simp, .one (.done keyed) later⟩
          · cases h
        · split at h
          · cases h
          · rename_i shallow
            have shallow : outer.length + 1 < groupLimit := Nat.lt_of_not_le shallow
            split at h
            -- A group in the group: what closes both of them is the inner end and then the outer.
            · rename_i starts
              cases starts
              obtain ⟨front, rfl, closing⟩ := ih _ shorter h rfl
              cases closing with
              | one nested closing =>
                cases closing with
                | one inner later =>
                  exact ⟨_, by simp, .one (.group shallow keyed nested inner) later⟩
            · rename_i noStart
              split at h
              · cases h
              · rename_i skipped
                have notLonger := skipPlain_length_le skipped
                obtain ⟨content, rfl, plain⟩ := plain_of_skipPlain noStart skipped
                obtain ⟨front, rfl, closing⟩ := ih _ (Nat.lt_of_le_of_lt notLonger shorter) h rfl
                cases closing with
                | one inner later =>
                  exact ⟨_, by simp, .one (.plain shallow keyed plain inner) later⟩

/-! One key at a time: the end of the innermost group, the start of another, any other field. -/

theorem skipGroups_end {tag : Nat} {outer : List Nat} {input rest : Bytes}
    (found : Key.read input = .ok (⟨tag, .endGroup⟩, rest)) :
    skipGroups (tag :: outer) input = skipGroups outer rest := by
  rw [skipGroups]
  split
  · rename_i other
    rw [found] at other
    cases other
  · rename_i other
    rw [found] at other
    cases other
    simp

theorem skipGroups_start {tag inner : Nat} {outer : List Nat} {input rest : Bytes}
    (shallow : outer.length + 1 < groupLimit)
    (found : Key.read input = .ok (⟨inner, .startGroup⟩, rest)) :
    skipGroups (tag :: outer) input = skipGroups (inner :: tag :: outer) rest := by
  rw [skipGroups]
  split
  · rename_i other
    rw [found] at other
    cases other
  · rename_i other
    rw [found] at other
    cases other
    simp [Nat.not_le.2 shallow]

theorem skipGroups_plain {tag : Nat} {outer : List Nat} {key : Key} {input content rest : Bytes}
    (shallow : outer.length + 1 < groupLimit)
    (noGroup : key.type ≠ .startGroup ∧ key.type ≠ .endGroup)
    (found : Key.read input = .ok (key, content))
    (skipped : skipPlain key.type content = .ok rest) :
    skipGroups (tag :: outer) input = skipGroups (tag :: outer) rest := by
  rw [skipGroups]
  split
  · rename_i other
    rw [found] at other
    cases other
  · rename_i other
    rw [found] at other
    cases other
    rw [if_neg noGroup.2, if_neg (by simpa using shallow), if_neg noGroup.1]
    split
    · rename_i other
      rw [skipped] at other
      cases other
    · rename_i other
      rw [skipped] at other
      cases other
      rfl

theorem skipGroups_of_grouped {depth tag : Nat} {inside : Bytes}
    (grouped : Grouped depth tag inside) {outer : List Nat} (rest : Bytes)
    (depth_eq : depth = outer.length + 1) :
    skipGroups (tag :: outer) (inside ++ rest) = skipGroups outer rest := by
  induction grouped generalizing outer rest with
  | @done depth tag lead ends => exact skipGroups_end (Key.read_eq_ok_iff.2 ⟨lead, rfl, ends⟩)
  | @plain depth tag key lead content later shallow keyed plain _ ih =>
    subst depth_eq
    have found : Key.read (lead ++ (content ++ later) ++ rest) =
        .ok (key, content ++ (later ++ rest)) := Key.read_eq_ok_iff.2 ⟨lead, by simp, keyed⟩
    have skipped := skipPlain_of_plain plain (later ++ rest)
    rw [skipGroups_plain shallow plain.type_ne found skipped, ih rest rfl]
  | @group depth tag inner lead content later shallow keyed _ _ nestedIh laterIh =>
    subst depth_eq
    have found : Key.read (lead ++ (content ++ later) ++ rest) =
        .ok (⟨inner, .startGroup⟩, content ++ (later ++ rest)) :=
      Key.read_eq_ok_iff.2 ⟨lead, by simp, keyed⟩
    rw [skipGroups_start shallow found, nestedIh (later ++ rest) rfl, laterIh rest rfl]

theorem skip_eq_ok_iff {key : Key} {input rest : Bytes} :
    skip key input = .ok rest ↔ ∃ front, input = front ++ rest ∧ Unknown key front := by
  obtain ⟨tag, type⟩ := key
  constructor
  · intro h
    unfold skip at h
    split at h
    · rename_i starts
      cases starts
      obtain ⟨front, rfl, closing⟩ := closing_of_skipGroups h
      cases closing with
      | one inner later =>
        cases later
        exact ⟨_, rfl, .group (by simpa using inner)⟩
    · rename_i noStart
      obtain ⟨front, split, plain⟩ := plain_of_skipPlain noStart h
      exact ⟨front, split, .plain plain⟩
  · rintro ⟨front, rfl, unknown⟩
    cases unknown with
    | plain content =>
      rw [skip, if_neg content.type_ne.1]
      exact skipPlain_of_plain content rest
    | group content =>
      rw [skip, if_pos rfl, skipGroups_of_grouped content rest rfl, skipGroups]

/-! ## Payloads -/

namespace Schema

variable {Field : Type} {schema : Schema Field}

/-- Bytes that spell one field: a known one with its value, or one that nobody knows. -/
inductive FieldSpells (schema : Schema Field) : Option Field → Bytes → Prop where
  | known {key : Key} {spec : FieldSpec Field} {lead content : Bytes} {field : Field}
    (keyed : Key.Spells lead key) (known : schema.field? key.tag = some spec)
    (layout : key.type = spec.content.wireType) (spelled : spec.content.Spells content field) :
    FieldSpells schema (some field) (lead ++ content)
  | unknown {key : Key} {lead content : Bytes} (keyed : Key.Spells lead key)
    (unknown : schema.field? key.tag = none) (spelled : Unknown key content) :
    FieldSpells schema none (lead ++ content)

/-- Bytes that spell a payload with these known fields, in this order. -/
inductive Spells (schema : Schema Field) : List Field → Bytes → Prop where
  | nil : Spells schema [] []
  | cons {found : Option Field} {fields : List Field} {front rest : Bytes}
    (first : FieldSpells schema found front) (later : Spells schema fields rest) :
    Spells schema (found.toList ++ fields) (front ++ rest)

theorem readField_eq_ok_iff {found : Option Field} {input rest : Bytes} :
    schema.readField input = .ok (found, rest) ↔
      ∃ front, input = front ++ rest ∧ schema.FieldSpells found front := by
  constructor
  · intro h
    unfold readField at h
    split at h
    · cases h
    · rename_i key left keyRead
      obtain ⟨lead, rfl, keyed⟩ := Key.read_eq_ok_iff.1 keyRead
      split at h
      · rename_i spec known
        split at h
        · cases h
        · rename_i content
          cases h
          unfold Content.readAs at content
          split at content
          · rename_i layout
            obtain ⟨front, rfl, spelled⟩ := Content.spells_of_read content
            exact ⟨lead ++ front, by simp, .known keyed known layout spelled⟩
          · cases content
      · rename_i unknown
        split at h
        · cases h
        · rename_i skipped
          cases h
          obtain ⟨front, rfl, spelled⟩ := skip_eq_ok_iff.1 skipped
          exact ⟨lead ++ front, by simp, .unknown keyed unknown spelled⟩
  · rintro ⟨front, rfl, spelled⟩
    cases spelled with
    | @known key spec lead content field keyed known layout spelled =>
      have keyRead : Key.read (lead ++ content ++ rest) = .ok (key, content ++ rest) :=
        Key.read_eq_ok_iff.2 ⟨lead, by simp, keyed⟩
      simp only [readField, keyRead, known, Content.readAs, if_pos layout,
        Content.read_of_spells spelled rest]
    | @unknown key lead content keyed unknown spelled =>
      have keyRead : Key.read (lead ++ content ++ rest) = .ok (key, content ++ rest) :=
        Key.read_eq_ok_iff.2 ⟨lead, by simp, keyed⟩
      have skipped : skip key (content ++ rest) = .ok rest :=
        skip_eq_ok_iff.2 ⟨content, rfl, spelled⟩
      simp only [readField, keyRead, unknown, skipped]

theorem decode_of_readField {found : Option Field} {input rest : Bytes}
    (read : schema.readField input = .ok (found, rest)) :
    schema.decode input = (schema.decode rest).map (found.toList ++ ·) := by
  cases found with
  | none =>
    rw [decode_unknown read]
    cases schema.decode rest <;> rfl
  | some field => exact decode_known read

theorem decode_of_error {byte : UInt8} {tail : Bytes} {error : DecodeError}
    (read : schema.readField (byte :: tail) = .error error) :
    schema.decode (byte :: tail) = .error error := by
  rw [decode, decodeAfter]
  split
  · rename_i found
    rw [read] at found
    cases found
    rfl
  · rename_i found
    rw [read] at found
    cases found
  · rename_i found
    rw [read] at found
    cases found

/-- Reading a payload gives the fields that it spells, and fails when it spells none. -/
theorem decode_eq_ok_iff {fields : List Field} {bytes : Bytes} :
    schema.decode bytes = .ok fields ↔ schema.Spells fields bytes := by
  constructor
  · intro h
    induction size : bytes.length using Nat.strongRecOn generalizing bytes fields with
    | ind size ih =>
      subst size
      cases bytes with
      | nil =>
        rw [decode_nil] at h
        cases h
        exact .nil
      | cons byte tail =>
        cases read : schema.readField (byte :: tail) with
        | error error =>
          rw [decode_of_error read] at h
          cases h
        | ok cut =>
          obtain ⟨found, rest⟩ := cut
          rw [decode_of_readField read] at h
          obtain ⟨later, decoded, rfl⟩ := map_eq_ok_iff.1 h
          have spelled := ih _ (readField_length_lt read) decoded rfl
          obtain ⟨front, split, first⟩ := readField_eq_ok_iff.1 read
          rw [split]
          exact .cons first spelled
  · intro spelled
    induction spelled with
    | nil => exact decode_nil schema
    | @cons found fields front rest first _ ih =>
      have read : schema.readField (front ++ rest) = .ok (found, rest) :=
        readField_eq_ok_iff.2 ⟨front, rfl, first⟩
      rw [decode_of_readField read, ih]
      rfl

end Schema

end Wire
end ServiceChannel
