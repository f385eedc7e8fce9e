import ServiceChannel.Log.Field
import ServiceChannel.Log.Rule

/-!
# Log filters

Which events a log keeps. Of the rules that are for an event the most particular one decides: that
with the longest target, then one that asks for a value, then the one whose value comes last in the
order of names. An event that no rule is for is not kept.

- `LogFilter.admits`: an event is kept.
- `LogFilter.read`: reads a filter from text, such as `info` or `cml_service=error,warn`.
- `LogFilter.ofVerbosity`: the filter of a verbosity.
-/

namespace ServiceChannel

namespace Rule

/-- The rule is for an event. -/
def covers (rule : Rule) (event : Event) : Bool :=
  rule.target.all (·.toList.isPrefixOf event.target.toList) && rule.field.all event.hasField

/-- How particular the target is: any target is more than none, and a longer one more than that. -/
def reach (rule : Rule) : Nat :=
  match rule.target with
  | none => 0
  | some target => target.utf8ByteSize + 1

/-- The rule is at least as particular as another one. -/
def atLeast (rule other : Rule) : Bool :=
  if rule.reach ≠ other.reach then other.reach < rule.reach
  else match rule.field, other.field with
    | _, none => true
    | none, some _ => false
    | some name, some other => other ≤ name

end Rule

/-- The rules of a log. -/
structure LogFilter where
  rules : List Rule
  deriving DecidableEq

namespace LogFilter

/-- The better of two rules for an event; of two as particular, the later one. -/
def prefer (best : Option Rule) (rule : Rule) : Option Rule :=
  match best with
  | none => some rule
  | some previous => if rule.atLeast previous then some rule else best

/-- The rule that decides about an event. -/
def decisive? (filter : LogFilter) (event : Event) : Option Rule :=
  (filter.rules.filter (·.covers event)).foldl prefer none

/-- The event is kept. -/
def admits (filter : LogFilter) (event : Event) : Bool :=
  (filter.decisive? event).any (·.threshold.admits event.level)

/-- The events that are kept. -/
def keep (filter : LogFilter) (events : List Event) : List Event := events.filter filter.admits

/-! ## Verbosity -/

/-- The parts of the program whose weight follows the verbosity. -/
def targets : List String := ["cmld_core", "cmld_service", "cml_service", "rattestation"]

/-- The least weight at a verbosity. -/
def levelAt : (verbosity : Nat) → Level
  | 0 => .error
  | 1 => .warn
  | 2 => .info
  | 3 => .debug
  | _ => .trace

/-- The filter of a verbosity. -/
def ofVerbosity (verbosity : Nat) : LogFilter :=
  ⟨targets.map fun target => { target := some target, threshold := some (levelAt verbosity) }⟩

/-! ## Reading -/

/-- Reads rules between commas; the first fault counts. Where there is no rule, nothing is kept. -/
def read (text : String) : Except RuleFault LogFilter := do
  let rules ← ((text.splitOn ",").filter (· ≠ "")).mapM fun text => Rule.read text.toList
  return ⟨rules.filterMap id⟩

/-- The filter that an environment asks for, or that of the verbosity if it asks for none, or for
one that cannot be read. None if the program cannot go on. -/
def choose? (environment : Option String) (verbosity : Nat) : Option LogFilter :=
  match environment with
  | none => some (ofVerbosity verbosity)
  | some text =>
    match read text with
    | .ok filter => some filter
    | .error .unreadable => some (ofVerbosity verbosity)
    | .error .torn => none

end LogFilter
end ServiceChannel
