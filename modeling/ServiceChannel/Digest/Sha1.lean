import ServiceChannel.Digest.Block

/-!
# SHA-1

The digest of FIPS 180-4, section 6.1: five words, eighty rounds a block.

- `sha1_length`: a digest has twenty bytes.
-/

namespace ServiceChannel.Digest.Sha1

/-- The five chaining words. -/
structure State where
  a : UInt32
  b : UInt32
  c : UInt32
  d : UInt32
  e : UInt32

/-- The chaining words before the first block. -/
def start : State := ⟨0x67452301, 0xefcdab89, 0x98badcfe, 0x10325476, 0xc3d2e1f0⟩

/-- One more word of the schedule, from the sixteen newest ones in `window`, oldest first. -/
def nextWord (window : Array UInt32) : UInt32 :=
  rotateLeft (window.getD 13 0 ^^^ window.getD 8 0 ^^^ window.getD 2 0 ^^^ window.getD 0 0) 1

/-- The function of a round on the three middle words. -/
def mix (round : Nat) (b c d : UInt32) : UInt32 :=
  if round < 20 then b &&& c ||| ~~~b &&& d
  else if round < 40 then b ^^^ c ^^^ d
  else if round < 60 then b &&& c ||| b &&& d ||| c &&& d
  else b ^^^ c ^^^ d

/-- The constant of a round. -/
def roundConstant (round : Nat) : UInt32 :=
  if round < 20 then 0x5a827999
  else if round < 40 then 0x6ed9eba1
  else if round < 60 then 0x8f1bbcdc
  else 0xca62c1d6

/-- One round with its schedule word. -/
def roundStep (s : State) (round : Nat) (word : UInt32) : State :=
  let a := rotateLeft s.a 5 + mix round s.b s.c s.d + s.e + roundConstant round + word
  ⟨a, s.a, rotateLeft s.b 30, s.c, s.d⟩

/-- Eighty rounds, the schedule running along as a window of sixteen words. -/
def rounds (s : State) (window : Array UInt32) : State :=
  let done := (List.range 80).foldl
    (fun (s, window) round =>
      (roundStep s round (window.getD 0 0), (window.eraseIdxIfInBounds 0).push (nextWord window)))
    (s, window)
  done.1

/-- The state after one block. -/
def compress (s : State) (block : List UInt32) : State :=
  let t := rounds s block.toArray
  ⟨s.a + t.a, s.b + t.b, s.c + t.c, s.d + t.d, s.e + t.e⟩

end Sha1

/-- The SHA-1 digest of a message. -/
def sha1 (message : Bytes) : Bytes :=
  let s := overMessage Sha1.compress Sha1.start message
  ofWords [s.a, s.b, s.c, s.d, s.e]

theorem sha1_length (message : Bytes) : (sha1 message).length = 20 := by
  simp [sha1, ofWords]

end ServiceChannel.Digest
