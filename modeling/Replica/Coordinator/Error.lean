/-
Why a coordinator fails.
-/
import Replica.Error
import Replica.Coordinator.Lifecycle
import Replica.Coordinator.Signal

namespace Replica

/-- The failures of a coordinator. -/
inductive CoordinatorError
  /-- A durable store failed. -/
  | store (cause : StoreError)
  /-- The policy could not apply a message. -/
  | policy (id : MessageId) (text : String)
  /-- A message could not be folded into the digest. -/
  | fold (id : MessageId) (cause : StoreError)
  /-- A strategy module did not start. -/
  | strategyStart (name text : String)
  /-- A strategy module failed while it ran. -/
  | strategy (name text : String)
  /-- The listener of a signal could not be registered. -/
  | signal (signal : ShutdownSignal) (text : String)
  /-- Messages are not accepted now. A rejection, not a failure. -/
  | notRunning (state : Lifecycle)
  | other (text : String)
  deriving DecidableEq, Repr, Inhabited

namespace CoordinatorError

/-- What is said about the failure. -/
def message : CoordinatorError → String
  | store cause => s!"store error: {cause.message}"
  | policy id text => s!"policy failed to process {id.text}: {text}"
  | fold id cause => s!"failed to fold {id.text} into the digest: {cause.message}"
  | strategyStart name text => s!"strategy module '{name}' failed to start: {text}"
  | strategy name text => s!"strategy module '{name}' failed: {text}"
  | .signal registered text => s!"failed to register {registered.name} listener: {text}"
  | notRunning state => s!"coordinator is not running (state: {state.name})"
  | other text => text

/-- Whether the failure is a rejection. -/
def isNotRunning : CoordinatorError → Bool
  | notRunning _ => true
  | _ => false

/-- The failure behind the failure. -/
def cause? : CoordinatorError → Option String
  | policy _ text => some text
  | fold _ cause => some cause.message
  | strategyStart _ text => some text
  | strategy _ text => some text
  | .signal _ text => some text
  | _ => none

end CoordinatorError

end Replica
