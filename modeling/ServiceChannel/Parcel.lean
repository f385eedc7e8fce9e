/-!
# Parcels

Bytes on their way between two ends travel in parcels. A parcel holds memory until its last byte is
read, and the memory that an end may have on the way is bounded: while the bound is reached, there
is no room for another parcel.

- `Parcel.pack`: the parcels that bytes go into, as far as there is room.
- `Parcel.unpack`: the parcels that are left after so many bytes were read.
-/

namespace ServiceChannel

/-- Bytes on their way. -/
structure Parcel where
  /-- How many of them were not read yet. -/
  left : Nat
  /-- The memory that they hold, in bytes. -/
  weight : Nat
  deriving DecidableEq

namespace Parcel

/-! ## Sizes -/

/-- A page of memory. -/
def page : Nat := 4096

/-- The bytes that the head of a parcel can hold. -/
def headCapacity : Nat := 3776

/-- The bytes that a parcel can hold: a head and eight pages. -/
def capacity : Nat := headCapacity + 8 * page

/-- The bound on what an end may have on the way. -/
def bound : Nat := 212992

/-- So many bytes in whole units. -/
def wholeUnits (unit length : Nat) : Nat := (length + unit - 1) / unit * unit

/-- The block for a head of so many bytes: there are blocks of 512 bytes, and of each doubling of
that up to a page. The head is followed by a table of 320 bytes. -/
def block (head : Nat) : Nat :=
  let needed := wholeUnits 64 head + 320
  if needed ≤ 512 then 512 else if needed ≤ 1024 then 1024 else if needed ≤ 2048 then 2048 else page

/-- The memory of a parcel: a description of 256 bytes, the block of its head, and pages. What does
not fit a head goes into pages as far as it fills them. -/
def weightOf (length : Nat) : Nat :=
  let paged := min length (wholeUnits page (length - headCapacity))
  256 + block (length - paged) + wholeUnits page paged

/-- The weight of several parcels. -/
def weightOfAll (parcels : List Parcel) : Nat := (parcels.map weight).foldl (· + ·) 0

/-! ## On the way -/

/-- The parcels that so many bytes go into, when others of a weight are on the way. -/
def pack (held length : Nat) : List Parcel :=
  if length = 0 ∨ bound ≤ held then []
  else
    let part := min length capacity
    ⟨part, weightOf part⟩ :: pack (held + weightOf part) (length - part)
termination_by length
decreasing_by
  have : 0 < capacity := by decide
  omega

/-- The parcels that are left after so many bytes were read. -/
def unpack : (parcels : List Parcel) → (count : Nat) → List Parcel
  | [], _ => []
  | parcel :: parcels, count =>
    if count < parcel.left then { parcel with left := parcel.left - count } :: parcels
    else unpack parcels (count - parcel.left)

/-- How many bytes are in the parcels. -/
def lengthOfAll (parcels : List Parcel) : Nat := (parcels.map left).foldl (· + ·) 0

example : weightOf 21 = 768 ∧ weightOf 36544 = 37120 := by decide +kernel

example : lengthOfAll (pack 0 1000000) = 219264 := by decide +kernel

end Parcel
end ServiceChannel
