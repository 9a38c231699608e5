/-
Policies: the application's part in handling a message.
-/
import Replica.History.Reader

namespace Replica

/-- Where a message came from. -/
inductive Origin
  /-- Created here. -/
  | local
  /-- Received from a peer. -/
  | remote
  deriving DecidableEq, Repr, Inhabited

/-- Whether a message came from a peer. -/
def Origin.isRemote (origin : Origin) : Bool := origin = .remote

/-- Application logic, with a state of its own. -/
class Policy (π : Type) where
  /-- Decides whether a remote message is applied. -/
  shouldProcess : Message → HistoryReader → π → Bool × π
  /-- Applies a message's effect. An error is fatal. -/
  process : Message → Origin → π → Except String Unit × π

end Replica
