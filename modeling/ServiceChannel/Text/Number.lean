/-!
# Numbers in texts

Numbers as people write them: decimal digits, a sign, a point, an exponent.

- `readNat?`, `readInt?`: reads a whole number. Zeros in front do no harm.
- `isReal`: the text is a number without a sign, whole or not.
-/

namespace ServiceChannel.Text

/-! ## Whole numbers -/

/-- A number in decimal digits, at least one. -/
def readDigits? (digits : List Char) : Option Nat :=
  if digits ≠ [] ∧ digits.all Char.isDigit then
    some (digits.foldl (fun n digit => 10 * n + (digit.toNat - '0'.toNat)) 0)
  else none

/-- A number with an optional plus sign. -/
def readNat? : (text : List Char) → Option Nat
  | '+' :: digits => readDigits? digits
  | digits => readDigits? digits

/-- A number with an optional sign. -/
def readInt? : (text : List Char) → Option Int
  | '-' :: digits => (readDigits? digits).map fun n => -(n : Int)
  | text => (readNat? text).map fun n => (n : Int)

/-! ## Other numbers -/

/-- Decimal digits, at least one. -/
def isDigits (text : List Char) : Bool := !text.isEmpty && text.all Char.isDigit

/-- Nothing, or an exponent. -/
def isExponent : (text : List Char) → Bool
  | [] => true
  | mark :: text =>
    (mark = 'e' || mark = 'E') && match text with
      | '+' :: digits | '-' :: digits => isDigits digits
      | digits => isDigits digits

/-- Digits with a point among them or around them, or without one, and an exponent if there is
one. -/
def isDecimal (text : List Char) : Bool :=
  let whole := text.takeWhile Char.isDigit
  match text.dropWhile Char.isDigit with
  | '.' :: rest =>
    let part := rest.takeWhile Char.isDigit
    !(whole.isEmpty && part.isEmpty) && isExponent (rest.dropWhile Char.isDigit)
  | rest => !whole.isEmpty && isExponent rest

/-- The words for what is no number of digits, in small letters. -/
def realWords : List String := ["inf", "infinity", "nan"]

/-- The text is a number without a sign, or a word for one. -/
def isReal (text : List Char) : Bool :=
  isDecimal text || realWords.contains (String.ofList (text.map Char.toLower))

example : isReal "1.5e-3".toList ∧ isReal ".5".toList ∧ isReal "Inf".toList ∧
    ¬isReal ".".toList ∧ ¬isReal "+1".toList := by decide +kernel

end ServiceChannel.Text
