/-
Message identifiers and convergence digests: numbers of 64 bits with a text of
their own.
-/
import Replica.Bytes

namespace Replica

/-- The identifier of a message, unique among the messages of its origin. -/
structure MessageId where
  value : UInt64
  deriving DecidableEq, Hashable, Repr, Inhabited

/-- The identifier as it is written in errors. -/
def MessageId.text (id : MessageId) : String := s!"msg:{id.value.toNat}"

/-- The convergence digest: equal on peers that applied the same messages. -/
structure Digest where
  value : UInt64
  deriving DecidableEq, Repr, Inhabited

/-- The digest in sixteen hexadecimal digits. -/
def Digest.text (digest : Digest) : String := hexNumber 16 digest.value.toNat

end Replica
