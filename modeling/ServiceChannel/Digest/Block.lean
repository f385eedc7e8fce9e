import ServiceChannel.Bytes

/-!
# Message blocks

The padding and the block loop that both digests share: a message is closed with a one bit, filled
with zeros and ended by its length in bits, so that it divides into blocks of sixty-four bytes.

- `padded_length_mod`: a padded message divides into whole blocks.
-/

namespace ServiceChannel.Digest

/-- Bytes in a block. -/
def blockSize : Nat := 64

/-- Zero bytes between the closing bit and the length. -/
def paddingZeros (size : Nat) : Nat := (blockSize - (size + 9) % blockSize) % blockSize

/-- The message with its closing bit, zeros and length in bits. -/
def padded (message : Bytes) : Bytes :=
  let size := message.length
  message ++ 0x80 :: List.replicate (paddingZeros size) 0 ++ Bytes.bigEndian 8 (8 * size)

/-- The block as big-endian words; a rest of fewer than four bytes is no word. -/
def words : Bytes → List UInt32
  | a :: b :: c :: d :: rest => UInt32.ofNat (Bytes.toNat [a, b, c, d]) :: words rest
  | _ => []

/-- Applies a compression step to the first `count` blocks in turn. -/
def overBlocks {State : Type} (step : State → List UInt32 → State) :
    (count : Nat) → State → Bytes → State
  | 0, state, _ => state
  | count + 1, state, message =>
    overBlocks step count (step state (words (message.take blockSize))) (message.drop blockSize)

/-- Runs a compression step over a whole message. -/
def overMessage {State : Type} (step : State → List UInt32 → State) (start : State)
    (message : Bytes) : State :=
  let message := padded message
  overBlocks step (message.length / blockSize) start message

/-- The words as bytes, most significant first. -/
def ofWords (values : List UInt32) : Bytes :=
  values.flatMap fun word => Bytes.bigEndian 4 word.toNat

/-- Turns a word left. -/
def rotateLeft (word : UInt32) (count : UInt32) : UInt32 :=
  word <<< count ||| word >>> (32 - count)

/-- Turns a word right. -/
def rotateRight (word : UInt32) (count : UInt32) : UInt32 :=
  word >>> count ||| word <<< (32 - count)

theorem padded_length_mod (message : Bytes) : (padded message).length % blockSize = 0 := by
  simp only [padded, List.length_append, List.length_cons, List.length_replicate,
    Bytes.length_bigEndian, paddingZeros, blockSize]
  omega

end ServiceChannel.Digest
