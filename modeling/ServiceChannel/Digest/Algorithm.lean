import ServiceChannel.Digest.Sha1
import ServiceChannel.Digest.Sha256
import ServiceChannel.Log.Event

/-!
# Digest algorithms

Measurement lists carry bare digests, so the algorithm is recovered from the length of a digest.
SHA-384 is recognised by its length, but not supported otherwise.

- `Algorithm.ofSize?_eq_some_iff`: a length names the one algorithm of that output size.
-/

namespace ServiceChannel.Digest

/-- The digest algorithms that measurements use. -/
inductive Algorithm where
  | sha1
  | sha256
  | sha384
  deriving DecidableEq

/-- The algorithm is known but not supported. -/
structure Unsupported where
  algorithm : Algorithm
  deriving DecidableEq

namespace Algorithm

/-- The name in error texts. -/
def title : Algorithm → String
  | .sha1 => "SHA-1"
  | .sha256 => "SHA-256"
  | .sha384 => "SHA-384"

/-- The length of a digest in bytes. -/
def digestLength : Algorithm → Nat
  | .sha1 => 20
  | .sha256 => 32
  | .sha384 => 48

/-- The canonical output size of a supported algorithm. -/
def outputSize : Algorithm → Except Unsupported Nat
  | .sha384 => .error ⟨.sha384⟩
  | algorithm => .ok algorithm.digestLength

/-- The canonical name of a supported algorithm. -/
def canonicalName : Algorithm → Except Unsupported String
  | .sha1 => .ok "sha1"
  | .sha256 => .ok "sha256"
  | .sha384 => .error ⟨.sha384⟩

/-- The digest of a message with a supported algorithm. -/
def digest : Algorithm → Bytes → Except Unsupported Bytes
  | .sha1, message => .ok (Digest.sha1 message)
  | .sha256, message => .ok (Digest.sha256 message)
  | .sha384, _ => .error ⟨.sha384⟩

/-- The algorithm whose digests have this length. -/
def ofSize? (size : Nat) : Option Algorithm :=
  [sha1, sha256, sha384].find? (·.digestLength = size)

theorem ofSize?_eq_some_iff {size : Nat} {algorithm : Algorithm} :
    ofSize? size = some algorithm ↔ size = algorithm.digestLength := by
  constructor
  · intro h
    have := List.find?_some h
    simp only [decide_eq_true_eq] at this
    exact this.symm
  · rintro rfl
    cases algorithm <;> rfl

end Algorithm

namespace Unsupported

/-- The refusal in words. -/
def message (refusal : Unsupported) : String :=
  s!"hash algorithm not supported: {refusal.algorithm.title}"

/-- What asking for a size or a name leaves in the log. -/
def events {Answer : Type} : Except Unsupported Answer → List Event
  | .ok _ => []
  | .error _ => [.digestUnsupported]

end Unsupported
end ServiceChannel.Digest
