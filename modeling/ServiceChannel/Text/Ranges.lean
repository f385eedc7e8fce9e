/-!
# Ranges of characters

A class of characters as the ranges of their numbers, in two lists so that the common ones are
found fast.

- `Ranges.holds`: a character is in the class.
-/

namespace ServiceChannel.Text

/-- Ranges of numbers, both ends included, in ascending order. -/
abbrev Ranges := List (Nat × Nat)

namespace Ranges

/-- A number is in one of the ranges. -/
def mem (ranges : Ranges) (n : Nat) : Bool :=
  ranges.any fun (first, last) => first ≤ n && n ≤ last

/-- The first number of the supplementary planes. -/
def supplementaryStart : Nat := 0x10000

/-- A character is in the class of these ranges below the supplementary planes and in them. -/
def holds (basic supplementary : Ranges) (c : Char) : Bool :=
  if c.toNat < supplementaryStart then basic.mem c.toNat else supplementary.mem c.toNat

end Ranges
end ServiceChannel.Text
