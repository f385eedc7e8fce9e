import ServiceChannel.Bytes
import ServiceChannel.Wire.Fault

/-!
# Varints

Numbers of up to sixty-four bits in groups of seven, least significant group first, every byte but
the last with its high bit set.

- `read_write`: what was written is read back, whatever follows it.
- `read_length_lt`: reading takes at least one byte.
- `read_lt`: a number that was read has at most sixty-four bits.
-/

namespace ServiceChannel.Wire.Varint

/-- Writes a number in as few groups as it needs. -/
def write (value : Nat) : Bytes :=
  if value < 128 then [UInt8.ofNat value]
  else UInt8.ofNat (value % 128 + 128) :: write (value / 128)
termination_by value
decreasing_by omega

/-- Reads at most `groups` groups. The last of them all holds a single bit, the sixty-fourth. -/
def readGroups : (groups : Nat) → Bytes → Option (Nat × Bytes)
  | 0, _ => none
  | _ + 1, [] => none
  | groups + 1, byte :: rest =>
    if byte.toNat < 128 then
      if groups = 0 ∧ 2 ≤ byte.toNat then none else some (byte.toNat, rest)
    else
      (readGroups groups rest).map fun (high, rest) => (byte.toNat - 128 + 128 * high, rest)

/-- Reads a number. Longer spellings than necessary are accepted, up to ten bytes. -/
def read (bytes : Bytes) : Except Fault (Nat × Bytes) :=
  match readGroups 10 bytes with
  | some result => .ok result
  | none => .error .invalidVarint

/-- What a number of so many groups and one more bit stays below. -/
def ceiling : (groups : Nat) → Nat
  | 0 => 2
  | groups + 1 => 128 * ceiling groups

/-! ## Laws -/

theorem ceiling_pos (groups : Nat) : 0 < ceiling groups := by
  induction groups with
  | zero => decide
  | succ groups ih =>
    rw [ceiling]
    omega

theorem readGroups_length_lt {groups : Nat} {bytes rest : Bytes} {value : Nat}
    (h : readGroups groups bytes = some (value, rest)) : rest.length < bytes.length := by
  induction groups generalizing bytes value rest with
  | zero => simp [readGroups] at h
  | succ groups ih =>
    cases bytes with
    | nil => simp [readGroups] at h
    | cons byte tail =>
      simp only [readGroups] at h
      split at h
      · split at h
        · cases h
        · cases h
          simp
      · obtain ⟨⟨high, rest'⟩, found, eq⟩ := Option.map_eq_some_iff.1 h
        cases eq
        have := ih found
        simp only [List.length_cons]
        omega

theorem read_length_lt {bytes rest : Bytes} {value : Nat} (h : read bytes = .ok (value, rest)) :
    rest.length < bytes.length := by
  simp only [read] at h
  split at h
  · rename_i found
    cases h
    exact readGroups_length_lt found
  · cases h

theorem readGroups_write {groups value : Nat} (rest : Bytes) (bound : value < ceiling groups) :
    readGroups (groups + 1) (write value ++ rest) = some (value, rest) := by
  induction groups generalizing value with
  | zero =>
    rw [ceiling] at bound
    have small : value < 128 := by omega
    rw [write, if_pos small]
    have byte : (UInt8.ofNat value).toNat = value := by simp; omega
    simp only [List.cons_append, List.nil_append, readGroups, byte, if_pos small]
    rw [if_neg (by omega)]
  | succ groups ih =>
    rw [write]
    split
    · rename_i small
      have byte : (UInt8.ofNat value).toNat = value := by simp; omega
      simp [readGroups, byte, small]
    · rename_i large
      have byte : (UInt8.ofNat (value % 128 + 128)).toNat = value % 128 + 128 := by simp; omega
      have tail := @ih (value / 128) (by rw [ceiling] at bound; omega)
      rw [List.cons_append, readGroups]
      simp only [byte, show ¬ value % 128 + 128 < 128 by omega, if_false, tail]
      simp
      omega

theorem read_write {value : Nat} (rest : Bytes) (bound : value < UInt64.size) :
    read (write value ++ rest) = .ok (value, rest) := by
  have := readGroups_write rest (show value < ceiling 9 from bound)
  simp [read, this]

theorem readGroups_lt {groups : Nat} {bytes rest : Bytes} {value : Nat}
    (h : readGroups (groups + 1) bytes = some (value, rest)) : value < ceiling groups := by
  induction groups generalizing bytes value rest with
  | zero =>
    cases bytes with
    | nil => simp [readGroups] at h
    | cons byte tail =>
      rw [readGroups] at h
      split at h
      · split at h
        · cases h
        · rename_i single
          cases h
          simp only [true_and] at single
          rw [ceiling]
          omega
      · simp [readGroups] at h
  | succ groups ih =>
    cases bytes with
    | nil => simp [readGroups] at h
    | cons byte tail =>
      rw [readGroups] at h
      have byteLt := byte.toNat_lt
      split at h
      · split at h
        · cases h
        · cases h
          have := ceiling_pos groups
          rw [ceiling]
          omega
      · obtain ⟨⟨high, rest'⟩, found, eq⟩ := Option.map_eq_some_iff.1 h
        cases eq
        have := ih found
        rw [ceiling]
        omega

theorem read_lt {bytes rest : Bytes} {value : Nat} (h : read bytes = .ok (value, rest)) :
    value < UInt64.size := by
  simp only [read] at h
  split at h
  · rename_i found
    cases h
    exact readGroups_lt found
  · cases h

end ServiceChannel.Wire.Varint
