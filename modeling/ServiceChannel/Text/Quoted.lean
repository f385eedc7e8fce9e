import ServiceChannel.Text.Hidden

/-!
# Quoted texts

The description of a text between double quotes: what would end it or could not be seen is escaped,
by a letter where there is one and by number otherwise.

- `describe`: the description of a text.
-/

namespace ServiceChannel.Text

/-- Digits of a number in base sixteen, lower case, without leading zeros. -/
def hexadecimal (n : Nat) : String := String.ofList (Nat.toDigits 16 n)

/-- A character as it stands in a description. -/
def escape (c : Char) : String :=
  if c = '\x00' then "\\0"
  else if c = '\t' then "\\t"
  else if c = '\r' then "\\r"
  else if c = '\n' then "\\n"
  else if c = '\\' ∨ c = '"' then String.ofList ['\\', c]
  else if isHidden c then "\\u\x7b" ++ hexadecimal c.toNat ++ "\x7d"
  else String.singleton c

/-- The description of a text. -/
def describe (text : String) : String :=
  "\"" ++ String.join (text.toList.map escape) ++ "\""

example : describe "a\n\"b" = "\"a\\n\\\"b\"" := by decide +kernel

end ServiceChannel.Text
