/-!
# Rows

How deep the things of a pattern are nested in each other. A thing alone is as deep as itself;
several in a row are one deeper than the deepest of them, and so is what is put around a thing.

- `Row.depth`: how deep a row is.
- `Branches.depth`: how deep the alternatives of a group are.
-/

namespace ServiceChannel.Text.Pattern

/-- Things in a row. The last one stands apart, since a repetition is put around it. -/
structure Row where
  size : Nat := 0
  /-- How deep those in front of the last one are. -/
  front : Nat := 0
  /-- How deep the last one is. -/
  last : Nat := 0

namespace Row

/-- One more thing, which is so deep. -/
def add (row : Row) (depth : Nat) : Row := ⟨row.size + 1, max row.front row.last, depth⟩

/-- Something is put around the last thing. -/
def wrapLast (row : Row) : Row := { row with last := row.last + 1 }

/-- How deep the row is. -/
def depth (row : Row) : Nat :=
  let deepest := max row.front row.last
  if row.size ≤ 1 then deepest else deepest + 1

end Row

/-- What a group holds so far: alternatives, and the row that is being read. -/
structure Branches where
  alternatives : Row := {}
  row : Row := {}

namespace Branches

/-- One more thing in the row. -/
def add (branches : Branches) (depth : Nat) : Branches :=
  { branches with row := branches.row.add depth }

/-- A repetition of the last thing. -/
def wrapLast (branches : Branches) : Branches := { branches with row := branches.row.wrapLast }

/-- The row is an alternative; another one begins. -/
def branch (branches : Branches) : Branches :=
  { alternatives := branches.alternatives.add branches.row.depth }

/-- How deep it all is. -/
def depth (branches : Branches) : Nat := branches.branch.alternatives.depth

end Branches

/-- What a pair of brackets holds so far: the members that are being read, and in front of them
perhaps an operation with all before it. -/
structure Members where
  /-- How deep the left side of the operation is. -/
  left : Option Nat := none
  row : Row := {}

namespace Members

/-- One more member. -/
def add (members : Members) (depth : Nat) : Members :=
  { members with row := members.row.add depth }

/-- How deep it all is. -/
def depth (members : Members) : Nat :=
  match members.left with
  | none => members.row.depth
  | some left => max left members.row.depth + 1

/-- An operation on all so far; its right side begins. -/
def operate (members : Members) : Members := { left := some members.depth }

end Members
end ServiceChannel.Text.Pattern
