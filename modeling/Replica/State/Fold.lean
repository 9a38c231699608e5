/-
Folds: how applied messages are summed up in the convergence digest.

Peers that applied the same messages in different orders hold the same digest
only if the order of two messages in a row makes no difference to the fold.
-/
import Replica.Message

namespace Replica

/-- A way to sum up messages in a digest. -/
structure Fold where
  /-- The digest before any message. -/
  initial : Digest := ⟨0⟩
  /-- The digest after one more message. -/
  step : Digest → Message → Digest

namespace Fold

/-- Adds the identifier, modulo 2^64. -/
def sum : Fold where
  step digest message := ⟨digest.value + message.id.value⟩

instance : Inhabited Fold := ⟨sum⟩

/-- Takes the exclusive or with the identifier. -/
def xor : Fold where
  step digest message := ⟨digest.value ^^^ message.id.value⟩

/-- Multiplies by 31 and adds the identifier, modulo 2^64. Its order matters. -/
def affine : Fold where
  step digest message := ⟨digest.value * 31 + message.id.value⟩

/-- Adds the payload length, modulo 2^64. -/
def payloadLength : Fold where
  step digest message := ⟨digest.value + UInt64.ofNat message.payload.length⟩

/-- The same fold from another start. -/
def startingAt (fold : Fold) (initial : Digest) : Fold := { fold with initial }

/-- The digest of messages applied one after another. -/
def digest (fold : Fold) (messages : List Message) : Digest :=
  messages.foldl fold.step fold.initial

/-- Every digest on the way: before the first message and after each. -/
def digests (fold : Fold) (messages : List Message) : List Digest :=
  go fold.initial messages
where
  /-- The digests from one on. -/
  go (current : Digest) : List Message → List Digest
    | [] => [current]
    | message :: rest => current :: go (fold.step current message) rest

end Fold

end Replica
