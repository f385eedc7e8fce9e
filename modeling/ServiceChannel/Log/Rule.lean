import ServiceChannel.Log.Event
import ServiceChannel.Text.Number
import ServiceChannel.Text.Pattern

/-!
# Rules of a log

A rule says from which weight on events are kept. It can be for targets that begin with its own,
and for events with a value of its name: `info`, `cml_service=error`, `cml_service[{code}]=warn`.

- `Threshold.ofWord?`: reads a weight.
- `Rule.read`: reads a rule.

A rule may also ask for the activity that an event happens in, between the brackets, or for what a
value is. There are no activities here, and values are compared nowhere but in them, so such a rule
is read and then left out.
-/

namespace ServiceChannel

/-! ## Rules -/

/-- The least weight that is kept; none if nothing is. -/
abbrev Threshold := Option Level

namespace Threshold

/-- The weight reaches the threshold. -/
def admits (threshold : Threshold) (level : Level) : Bool :=
  threshold.any (·.rank ≤ level.rank)

/-- The words for thresholds. Their places are the numbers that stand for them as well. -/
def words : List (String × Threshold) :=
  [("off", none), ("error", some .error), ("warn", some .warn), ("info", some .info),
   ("debug", some .debug), ("trace", some .trace)]

/-- The threshold of a number, or of a word in upper or lower case. -/
def ofWord? (text : List Char) : Option Threshold :=
  match Text.readNat? text with
  | some place => (words[place]?).map (·.2)
  | none => words.lookup (String.ofList (text.map Char.toLower))

end Threshold

/-- One rule of a filter. -/
structure Rule where
  /-- What the targets begin with that the rule is for. -/
  target : Option String := none
  /-- The name of a value that an event has to have. -/
  field : Option String := none
  threshold : Threshold
  deriving DecidableEq

/-- Why a text is no rule. -/
inductive RuleFault where
  /-- It has no such form. -/
  | unreadable
  /-- A part would begin or end inside a character. The program cannot go on. -/
  | torn
  deriving DecidableEq

namespace Rule

/-! ## Parts of a text -/

/-- The text behind so many bytes. -/
def dropBytes : (text : List Char) → (count : Nat) → Except RuleFault (List Char)
  | text, 0 => .ok text
  | [], _ => .ok []
  | c :: text, count =>
    if count < c.utf8Size then .error .torn else dropBytes text (count - c.utf8Size)

/-- The first so many bytes of a text. -/
def takeBytes : (text : List Char) → (count : Nat) → Except RuleFault (List Char)
  | _, 0 => .ok []
  | [], _ => .ok []
  | c :: text, count =>
    if count < c.utf8Size then .error .torn
    else (takeBytes text (count - c.utf8Size)).map (c :: ·)

/-- The part of a text from one place to another, in bytes. -/
def part (text : List Char) (first last : Nat) : Except RuleFault (List Char) := do
  takeBytes (← dropBytes text first) (last - first)

/-! ## Reading -/

/-- How far a rule has been read; places are where its parts begin. -/
inductive Stage where
  | start
  /-- In a word, which is a weight or a target. -/
  | word
  /-- In the name of an activity. -/
  | activity (first : Nat)
  /-- In a condition on a value. -/
  | condition (first : Nat)
  /-- Behind a condition. -/
  | conditioned
  /-- Behind the brackets. -/
  | closed
  /-- Behind the equals sign in front of a weight. -/
  | weight (first : Nat)

/-- What has been read of a rule. -/
structure Draft where
  stage : Stage := .start
  target : Option (List Char) := none
  field : Option (List Char) := none
  /-- The rule asks for an activity, or for what a value is. -/
  leftOut : Bool := false

/-- A word can begin with this character. -/
def startsWord (c : Char) : Bool := c = '-' || c = ':' || c = '_' || Text.isAlphanumeric c

/-- What a value can be compared with: a number or a pattern. -/
def isContent : (text : List Char) → Bool
  | '+' :: number => Text.isReal number
  | text => Text.isPattern text

/-- Reads a condition: the name of a value, and what the value is if that matters. -/
def Draft.addCondition (draft : Draft) (text : List Char) : Except RuleFault Draft :=
  let draft := { draft with stage := .conditioned, field := some (text.takeWhile (· ≠ '=')) }
  match text.dropWhile (· ≠ '=') with
  | [] => if text.isEmpty then .error .unreadable else .ok draft
  | _ :: rest =>
    if isContent (rest.takeWhile (· ≠ '=')) then .ok { draft with leftOut := true }
    else .error .unreadable

/-- Reads the character at a place of a text. -/
def Draft.read (text : List Char) (draft : Draft) (place : Nat) (c : Char) :
    Except RuleFault Draft := do
  match draft.stage with
  | .start =>
    if c = '[' then return { draft with stage := .activity (place + 1) }
    else if startsWord c then return { draft with stage := .word }
    else throw .unreadable
  | .word =>
    if c = '=' then
      return { draft with stage := .weight (place + 1), target := some (← part text 0 place) }
    else if c = '[' then
      return { draft with stage := .activity (place + 1), target := some (← part text 0 place) }
    else return draft
  | .activity first =>
    if c = ']' then
      let _ ← part text first place
      return { draft with stage := .closed, leftOut := true }
    else if c = '{' then
      let name ← part text first place
      return { draft with stage := .condition (place + 1), leftOut := !name.isEmpty }
    else return draft
  | .condition first =>
    if c = '}' then draft.addCondition (← part text first place) else return draft
  | .conditioned => if c = ']' then return { draft with stage := .closed } else throw .unreadable
  | .closed =>
    if c = '=' then return { draft with stage := .weight (place + 1) } else throw .unreadable
  | .weight _ => return draft

/-- Reads characters from a place of a text on. -/
def Draft.readAll (text : List Char) : (draft : Draft) → (place : Nat) → List Char →
    Except RuleFault Draft
  | draft, _, [] => .ok draft
  | draft, place, c :: rest => do
    Draft.readAll text (← draft.read text place c) (place + c.utf8Size) rest

/-- The rule that was read, if it is not left out. -/
def Draft.rule? (draft : Draft) (threshold : Threshold) : Option Rule :=
  if draft.leftOut then none
  else some ⟨draft.target.map String.ofList, draft.field.map String.ofList, threshold⟩

/-- The rule of a word: a weight for all targets, or a target with everything. -/
def ofWord (text : List Char) : Rule :=
  match Threshold.ofWord? text with
  | some threshold => { threshold := threshold }
  | none => { target := some (String.ofList text), threshold := some .trace }

/-- Ends a rule. Without a weight it keeps everything. -/
def Draft.finish (text : List Char) (draft : Draft) : Except RuleFault (Option Rule) := do
  match draft.stage with
  | .word => return some (ofWord text)
  | .closed => return draft.rule? (some .trace)
  | .weight first =>
    let word ← dropBytes text first
    if word.isEmpty then return draft.rule? (some .trace)
    match Threshold.ofWord? word with
    | some threshold => return draft.rule? threshold
    | none => throw .unreadable
  | _ => throw .unreadable

/-- Reads a rule, if it is not left out. Blanks around it do not count where its characters are
looked at, but its parts are taken from the text with them: behind blanks in front, every part is
found as many places too early. -/
def read (text : List Char) : Except RuleFault (Option Rule) := do
  (← Draft.readAll text {} 0 (Text.trim text)).finish text

end Rule
end ServiceChannel
