import ServiceChannel.Text.Pattern.State

/-!
# Characters and escapes in patterns

Single characters, as they are or behind a backslash.

- `State.character`: a character has been read, however it is written.
- `State.escaped`: reads the character behind a backslash.
- `State.numbered`: reads a digit of a character's number.
-/

namespace ServiceChannel.Text.Pattern

namespace State

/-! ## What has been read -/

/-- A range between brackets has been read: both ends are characters, in order. -/
def range (state : State) (first last : Option Nat) : Option State :=
  match first, last with
  | some first, some last => if first ≤ last then state.go (.brackets .body) else none
  | _, _ => none

/-- A character has been read. -/
def character (state : State) (site : Site) (n : Nat) : Option State :=
  if state.foldsAll then none
  else match site with
    | .outside => state.add 0 .item
    | .member =>
      if state.flags.wide || n < 128 then state.addMember 0 (.member (some n)) else none
    | .rangeEnd first => if state.flags.wide || n < 128 then state.range first (some n) else none

/-- A class with a letter for a name has been read. -/
def letterClass (state : State) (site : Site) : Option State :=
  if state.flags.wide then none
  else match site with
    | .outside => state.add 0 .item
    | .member => state.addMember 0 (.member none)
    | .rangeEnd _ => none

/-- An edge has been read, which is no member of brackets. -/
def edge (state : State) : Site → Option State
  | .outside => state.add 0 .item
  | _ => none

/-! ## Escapes -/

/-- The characters that have letters of their own. -/
def letterEscapes : List (Char × Nat) :=
  [('a', 7), ('t', 9), ('n', 10), ('v', 11), ('f', 12), ('r', 13)]

/-- A character behind a backslash. -/
def escaped (state : State) (site : Site) (c : Char) : Option State :=
  if c = 'x' then state.go (.digits site 2 0 true)
  else if c = 'u' then state.go (.digits site 4 0 false)
  else if c = 'U' then state.go (.digits site 8 0 false)
  else if c ∈ ['d', 's', 'w'] then state.letterClass site
  else if c ∈ ['A', 'z'] then state.edge site
  else if c ∈ ['b', 'B', '<', '>'] then if state.flags.wide then none else state.edge site
  else match letterEscapes.lookup c with
    | some n => state.character site n
    | none => if c.toNat < 128 && !c.isAlphanum then state.character site c.toNat else none

/-- The value of a digit in base sixteen. -/
def digit? (c : Char) : Option Nat :=
  if c.isDigit then some (c.toNat - '0'.toNat)
  else if 'a' ≤ c ∧ c ≤ 'f' then some (c.toNat - 'a'.toNat + 10)
  else if 'A' ≤ c ∧ c ≤ 'F' then some (c.toNat - 'A'.toNat + 10)
  else none

/-- A digit of a character's number. The last one has to make it the number of a character. -/
def numbered (state : State) (site : Site) (left value : Nat) (narrow : Bool) (c : Char) :
    Option State :=
  (digit? c).bind fun digit =>
    let value := 16 * value + digit
    if 1 < left then state.go (.digits site (left - 1) value narrow)
    else if ¬value.isValidChar then none
    else if narrow && !state.flags.wide && 128 ≤ value then none
    else state.character site value

end State
end ServiceChannel.Text.Pattern
