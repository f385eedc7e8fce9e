import ServiceChannel.Text.Pattern.Bracket
import ServiceChannel.Text.Pattern.Group

/-!
# Patterns

Which texts are patterns for texts: literals, classes in brackets, groups, alternatives and
repetitions. They are read character by character, with what is open so far as the state; the text
behind a character is only looked at.

Patterns are for all characters unless the flag `u` is taken away. Without tables of the characters
there are then no classes with letters for names, no edges of words and no folding of upper and
lower case.

- `isPattern`: the text is a pattern.
-/

namespace ServiceChannel.Text

namespace Pattern

/-- How deep things may be nested. -/
def depthLimit : Nat := 250

namespace State

/-- A character outside brackets. A count of repetitions would need both braces, and the second one
never gets here. -/
def inMain (state : State) (mark : Mark) (c : Char) : Option State :=
  if c = '(' then state.go .group
  else if c = ')' then state.closeGroup
  else if c = '|' then { state with branches := state.branches.branch }.go (.main .none)
  else if c = '[' then state.openBracket
  else if c = '?' then
    match mark with
    | .none => none
    | .item => state.wrapLast
    | .repetition => state.go (.main .item)
  else if c = '*' || c = '+' then
    match mark with
    | .none => none
    | _ => state.wrapLast
  else if c = '{' then none
  else if c = '\\' then state.go (.escape .outside)
  else if c = '.' then if state.flags.wide then state.add 0 .item else none
  else if c = '^' || c = '$' then state.add 0 .item
  else state.character .outside c.toNat

/-- The next character, in the mode that is on; `text` follows it. Texts that look around are no
patterns. -/
def advance (state : State) (c : Char) (text : List Char) : Option State :=
  match state.mode with
  | .main mark => state.inMain mark c
  | .group =>
    if c = '?' then state.go .question
    else (state.openGroup state.flags).bind (·.inMain .none c)
  | .question =>
    if c = 'P' then state.go .announced
    else if c = '<' then state.go (.name [])
    else state.inFlags { flags := state.flags } c
  | .announced => if c = '<' then state.go (.name []) else none
  | .name reversed => state.inName reversed c
  | .flagging flagging => state.inFlags flagging c
  | .escape site => state.escaped site c
  | .digits site left value narrow => state.numbered site left value narrow c
  | .brackets spot => state.inBrackets c text spot

/-- Blanks can be passed over. -/
def isOpen (state : State) : Bool :=
  match state.mode with
  | .main _ | .group | .digits .. => state.flags.spaced
  | .brackets (.rest _) => false
  | .brackets _ => state.flags.spaced
  | _ => false

/-- A blank or a comment between other things: a repetition is complete behind it. -/
def pass (state : State) : State :=
  match state.mode with
  | .main .repetition => { state with mode := .main .item }
  | _ => state

/-- The next character; `text` follows it. -/
def step (state : State) (c : Char) (text : List Char) : Option State :=
  if state.comment then some { state with comment := c ≠ '\n' }
  else if state.isOpen && isBlank c then some state.pass
  else if state.isOpen && c = '#' then some { state.pass with comment := true }
  else state.advance c text

/-- Reads a text. -/
def read : (state : State) → (text : List Char) → Option State
  | state, [] => some state
  | state, c :: text => (state.step c text).bind (·.read text)

/-- Everything is closed, and nothing is nested too deep. -/
def isComplete (state : State) : Bool :=
  match state.mode with
  | .main _ => state.groups.isEmpty && state.branches.depth ≤ depthLimit
  | _ => false

end State
end Pattern

/-- The text is a pattern. -/
def isPattern (text : List Char) : Bool := (Pattern.State.read {} text).any (·.isComplete)

end ServiceChannel.Text
