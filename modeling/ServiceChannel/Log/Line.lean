import ServiceChannel.Log.Field

/-!
# Lines of a log

An event as a log holds it: in words, or as an object of named values.

- `Event.line`: level and words of an event, with its code, error and reason.
- `Event.heading`: weight and target, which a line in words begins with.
- `LogFormat.line`: the line of an event in either form, for a file or for a terminal.
-/

namespace ServiceChannel

namespace Event

/-- The names of the values that a short line has, in the order they are written. -/
def shortNames : List String := ["code", "error", "reason"]

/-- The event as one short line. -/
def line (event : Event) : String :=
  let shown := shortNames.filterMap fun name => (event.fields.lookup name).map (name, ·)
  s!"{event.level.name} {event.message}" ++
    String.join (shown.map fun (name, value) => " | " ++ name ++ "=" ++ value.text "")

/-- Weight and target of an event. -/
def heading (event : Event) : String := s!"{event.level.name} {event.target}:"

end Event

/-- The form of a log. -/
inductive LogFormat where
  | text
  | json
  deriving DecidableEq

namespace LogFormat

/-! ## Words -/

/-- The numbers that a terminal takes for a style. -/
def styleCodes : List (Level × String) :=
  [(.trace, "35"), (.debug, "34"), (.info, "32"), (.warn, "33"), (.error, "31")]

/-- A text in a style of the terminal, with the usual style behind it. -/
def styled (code text : String) : String :=
  let escape := String.singleton '\x1b' ++ "["
  escape ++ code ++ "m" ++ text ++ escape ++ "0m"

/-- The line of an event in words; `container` is the description of the container. On a terminal
everything but the words and the values has a style. -/
def words (terminal : Bool) (container : String) (event : Event) : String :=
  let style (code text : String) := if terminal then styled code text else text
  let level := style ((styleCodes.lookup event.level).getD "0") event.level.name
  let target := style "2" event.target ++ style "2" ":"
  String.intercalate " " (level :: target :: event.message ::
    event.fields.map fun (name, value) =>
      style "3" name ++ style "2" "=" ++ value.shown container)

/-! ## Objects -/

/-- A character inside a string of an object. -/
def escape (c : Char) : String :=
  if c = '"' ∨ c = '\\' then String.ofList ['\\', c]
  else if c = '\n' then "\\n"
  else if c = '\r' then "\\r"
  else if c = '\t' then "\\t"
  else if c.toNat < 32 then
    "\\u" ++ String.ofList (List.replicate (4 - (Text.hexadecimal c.toNat).length) '0') ++
      Text.hexadecimal c.toNat
  else String.singleton c

/-- A string of an object. -/
def string (text : String) : String :=
  "\"" ++ String.join (text.toList.map escape) ++ "\""

/-- An object of named values that are written already. -/
def object (values : List (String × String)) : String :=
  "\x7b" ++ String.intercalate "," (values.map fun (name, value) => string name ++ ":" ++ value) ++
    "\x7d"

/-- The line of an event as an object. -/
def record (container : String) (event : Event) : String :=
  let fields := event.fields.map fun (name, value) => (name, string (value.text container))
  object [("level", string event.level.name),
    ("fields", object (("message", string event.message) :: fields)),
    ("target", string event.target)]

/-- The line of an event. -/
def line (format : LogFormat) (terminal : Bool) (container : String) (event : Event) : String :=
  match format with
  | .text => words terminal container event
  | .json => record container event

end LogFormat
end ServiceChannel
