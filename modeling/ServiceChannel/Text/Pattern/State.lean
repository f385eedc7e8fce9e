import ServiceChannel.Text.Pattern.Row

/-!
# States of reading a pattern

What is known when a pattern has been read up to a place.

- `Pattern.Mode`: what is being read.
- `Pattern.State`: all that is open.
- `Pattern.State.add`: something has been read outside brackets.
- `Pattern.State.addMember`: a member has been read between brackets.
-/

namespace ServiceChannel.Text.Pattern

/-- The flags that matter for what is a pattern. -/
structure Flags where
  /-- Upper and lower case are the same. -/
  folds : Bool := false
  /-- The pattern is for all characters. -/
  wide : Bool := true
  /-- Blanks and comments do not count. -/
  spaced : Bool := false

/-- What stands in front. -/
inductive Mark where
  /-- Nothing that could be repeated. -/
  | none
  /-- Something that can be repeated. -/
  | item
  /-- A repetition, which a question mark makes a short one. -/
  | repetition

/-- A place inside brackets. -/
inductive Spot where
  /-- Behind the opening bracket. -/
  | opened
  /-- At the front, where dashes stand for themselves; `started` if there was one. -/
  | front (started : Bool)
  /-- Where the next member begins. -/
  | body
  /-- So many characters more belong to what has been read. -/
  | rest (count : Nat)
  /-- Behind a member: a character, or a class of its own. -/
  | member (character : Option Nat)
  /-- Behind a member and the dash of a range. -/
  | dash (character : Option Nat)

/-- Where an escape stands. -/
inductive Site where
  | outside
  /-- It is a member between brackets. -/
  | member
  /-- It ends a range between brackets. -/
  | rangeEnd (first : Option Nat)

/-- The flags named in a group so far. -/
structure Flagging where
  seen : List Char := []
  negated : Bool := false
  dangling : Bool := false
  flags : Flags

/-- What is being read. -/
inductive Mode where
  | main (mark : Mark)
  /-- Behind an opening parenthesis. -/
  | group
  /-- Behind its question mark. -/
  | question
  /-- Behind the letter that announces a name. -/
  | announced
  /-- In the name of a group, the last character first. -/
  | name (reversed : List Char)
  | flagging (flagging : Flagging)
  | escape (site : Site)
  /-- In the digits of a character's number; `narrow` if there are only two of them. -/
  | digits (site : Site) (left value : Nat) (narrow : Bool)
  | brackets (spot : Spot)

/-- A group that is open: what stands in front of it, and the flags there. -/
structure Outer where
  branches : Branches
  flags : Flags

/-- All that is open. -/
structure State where
  mode : Mode := .main .none
  flags : Flags := {}
  /-- What the innermost group holds so far. -/
  branches : Branches := {}
  groups : List Outer := []
  /-- What the open brackets hold so far, the innermost first. -/
  members : List Members := []
  names : List (List Char) := []
  /-- In a comment, which ends with its line. -/
  comment : Bool := false

namespace State

/-- Goes on in another mode. -/
def go (state : State) (mode : Mode) : Option State := some { state with mode := mode }

/-- Something has been read outside brackets; it is so deep. -/
def add (state : State) (depth : Nat) (mark : Mark) : Option State :=
  { state with branches := state.branches.add depth }.go (.main mark)

/-- The last thing outside brackets is repeated. -/
def wrapLast (state : State) : Option State :=
  { state with branches := state.branches.wrapLast }.go (.main .repetition)

/-- A member has been read between the innermost brackets; it is so deep. -/
def addMember (state : State) (depth : Nat) (spot : Spot) : Option State :=
  match state.members with
  | [] => none
  | inner :: outer =>
    { state with members := inner.add depth :: outer }.go (.brackets spot)

/-- Characters cannot be told from the others that they fold to: there is no table of those. -/
def foldsAll (state : State) : Bool := state.flags.folds && state.flags.wide

end State
end ServiceChannel.Text.Pattern
