import ServiceChannel.Text.Numeral
import ServiceChannel.Text.Pattern.State

/-!
# Groups in patterns

Parentheses: groups with and without a name, and flags.

- `State.openGroup`, `State.closeGroup`: a group begins and ends.
- `State.inName`: reads a character of a group's name.
- `State.inFlags`: reads a flag.
-/

namespace ServiceChannel.Text.Pattern

namespace State

/-- A group opens, with these flags in it. -/
def openGroup (state : State) (flags : Flags) : Option State :=
  let outer : Outer := ⟨state.branches, state.flags⟩
  { state with groups := outer :: state.groups, branches := {}, flags := flags }.go (.main .none)

/-- A group closes: the flags are those in front of it again. -/
def closeGroup (state : State) : Option State :=
  match state.groups with
  | [] => none
  | outer :: groups =>
    { state with groups := groups, branches := outer.branches, flags := outer.flags }.add
      (state.branches.depth + 1) .item

/-- A character can stand in a name, or at its front. -/
def fitsName (front : Bool) (c : Char) : Bool :=
  c = '_' || if front then isLetter c else isAlphanumeric c || c ∈ ['.', '[', ']']

/-- A character of a group's name. No two groups have the same one. -/
def inName (state : State) (reversed : List Char) (c : Char) : Option State :=
  if c = '>' then
    if reversed.isEmpty || state.names.contains reversed then none
    else { state with names := reversed :: state.names }.openGroup state.flags
  else if fitsName reversed.isEmpty c then state.go (.name (c :: reversed))
  else none

/-- A flag is set, or taken away. -/
def setFlag (flags : Flags) (value : Bool) (c : Char) : Flags :=
  match c with
  | 'i' => { flags with folds := value }
  | 'u' => { flags with wide := value }
  | 'x' => { flags with spaced := value }
  | _ => flags

/-- A character among the flags of a group. They are for the group, or for what follows if there is
none. -/
def inFlags (state : State) (flagging : Flagging) (c : Char) : Option State :=
  if c = ')' then
    if flagging.dangling || flagging.seen.isEmpty then none
    else { state with flags := flagging.flags }.add 0 .none
  else if c = ':' then if flagging.dangling then none else state.openGroup flagging.flags
  else if c = '-' then
    if flagging.negated then none
    else state.go (.flagging { flagging with negated := true, dangling := true })
  else if c ∈ ['i', 'm', 's', 'U', 'u', 'R', 'x'] && !flagging.seen.contains c then
    state.go (.flagging { flagging with
      seen := c :: flagging.seen
      dangling := false
      flags := setFlag flagging.flags (!flagging.negated) c })
  else none

end State
end ServiceChannel.Text.Pattern
