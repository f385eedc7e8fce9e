import ServiceChannel.Text.Blank
import ServiceChannel.Text.Pattern.Escape

/-!
# Brackets in patterns

Classes of characters: members side by side, ranges, classes within classes and operations on them.

- `State.openBracket`, `State.closeBracket`: a class begins and ends.
- `State.inBrackets`: reads a character in between.
-/

namespace ServiceChannel.Text.Pattern

/-! ## Looking ahead -/

/-- The names of classes in brackets of their own, such as `[:alpha:]`. -/
def classNames : List String :=
  ["alnum", "alpha", "ascii", "blank", "cntrl", "digit", "graph", "lower", "print", "punct",
   "space", "upper", "word", "xdigit"]

/-- What the name of a class looks like behind its bracket: how many characters it has, and whether
the class is of all the others. -/
def namedClass? : (text : List Char) → Option (Nat × Bool)
  | ':' :: text =>
    let negated := text.head? = some '^'
    let text := if negated then text.tail else text
    let name := text.takeWhile (· ≠ ':')
    if classNames.contains (String.ofList name) && (text.drop name.length).take 2 = [':', ']'] then
      some (name.length + (if negated then 4 else 3), negated)
    else none
  | _ => none

/-- The next character of a text that is no blank. Of a comment, too, the first such character is
taken. -/
def nextSolid? (text : List Char) : Option Char :=
  match text.dropWhile isBlank with
  | '#' :: text => (text.dropWhile isBlank).head?
  | text => text.head?

/-- The character that decides what a dash in front of the text is. -/
def behindDash? (spaced : Bool) (text : List Char) : Option Char :=
  if spaced then nextSolid? text else text.head?

namespace State

/-! ## Opening and closing -/

/-- A bracket opens. -/
def openBracket (state : State) : Option State :=
  { state with members := {} :: state.members }.go (.brackets .opened)

/-- A bracket closes. -/
def closeBracket (state : State) : Option State :=
  match state.members with
  | [] => none
  | [inner] => { state with members := [] }.add (inner.depth + 1) .item
  | inner :: outer => { state with members := outer }.addMember (inner.depth + 1) .body

/-! ## Members -/

/-- A class with a name has been read, but for so many characters. What others there are than its
own is only known among all characters. -/
def namedClass (state : State) (count : Nat) (negated : Bool) : Option State :=
  if state.foldsAll || (negated && !state.flags.wide) then none
  else state.addMember 0 (.rest count)

/-- A doubled character has been read, but for the second one: an operation on all members. -/
def operate (state : State) : Option State :=
  match state.members with
  | [] => none
  | inner :: outer => { state with members := inner.operate :: outer }.go (.brackets (.rest 1))

/-- A character where a member begins; `text` follows it. -/
def inBody (state : State) (c : Char) (text : List Char) : Option State :=
  if c = '[' then
    match namedClass? text with
    | some (count, negated) => state.namedClass count negated
    | none => state.openBracket
  else if c = ']' then state.closeBracket
  else if c ∈ ['&', '-', '~'] && text.head? = some c then state.operate
  else if c = '\\' then state.go (.escape .member)
  else state.character .member c.toNat

/-- A character behind a member. A dash makes a range, but not in front of a closing bracket or
another dash. -/
def behindMember (state : State) (character : Option Nat) (c : Char) (text : List Char) :
    Option State :=
  let ranges := c = '-' && (behindDash? state.flags.spaced text).all fun c => c ≠ ']' && c ≠ '-'
  if ranges then state.go (.brackets (.dash character)) else state.inBody c text

/-- A character at the front of brackets. -/
def inFront (state : State) (started : Bool) (c : Char) (text : List Char) : Option State :=
  if c = '-' then (state.character .member c.toNat).bind (·.go (.brackets (.front true)))
  else if c = ']' && !started then
    (state.character .member c.toNat).bind (·.go (.brackets .body))
  else state.inBody c text

/-- A character between brackets; `text` follows it. -/
def inBrackets (state : State) (c : Char) (text : List Char) : Spot → Option State
  | .opened =>
    if c = '^' then if state.flags.wide then state.go (.brackets (.front false)) else none
    else state.inFront false c text
  | .front started => state.inFront started c text
  | .body => state.inBody c text
  | .rest count => state.go (.brackets (if count ≤ 1 then .body else .rest (count - 1)))
  | .member character => state.behindMember character c text
  | .dash character =>
    if c = '\\' then state.go (.escape (.rangeEnd character))
    else state.character (.rangeEnd character) c.toNat

end State
end ServiceChannel.Text.Pattern
