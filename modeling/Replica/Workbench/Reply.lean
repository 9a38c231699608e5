/-
What a workbench answers to a step.
-/
import Replica.CommandLine
import Replica.History.Query
import Replica.Journal
import Replica.Strategy.Loopback

namespace Replica.Workbench

/-- Why a step failed. -/
inductive Failure
  /-- The file system refused a change made by hand. -/
  | os (error : OsError)
  | storage (error : StorageError)
  | store (error : StoreError)
  | coordinator (error : CoordinatorError)
  | inspection (error : InspectionError)
  deriving DecidableEq, Repr, Inhabited

/-- What a step is about and the bench does not hold. -/
inductive Missing
  | byteStore
  | log
  | queue
  | history
  | state
  | coordinator
  | loop
  deriving DecidableEq, Repr, Inhabited

/-- What is said about the missing thing. -/
def Missing.text : Missing → String
  | byteStore => "no backend"
  | log => "no log"
  | queue => "no queue"
  | history => "no history"
  | state => "no state"
  | coordinator => "no coordinator"
  | loop => "no loop"

/-- The answer to a step. -/
inductive Reply
  /-- The step succeeded and gives nothing. -/
  | done
  | missing (what : Missing)
  | failed (failure : Failure)
  | truth (value : Bool)
  | number (value : Nat)
  | text (value : String)
  /-- Bytes; none if they could not be read. -/
  | bytes (value : Option Bytes)
  | path (value : String)
  | paths (values : List String)
  | records (values : List LogRecord)
  | message (value : Option Message)
  | messages (values : List Message)
  | queueOpened (length : Nat) (path : Option String)
  | historyOpened (length : Nat)
  | stateOpened (snapshot : Snapshot) (path : String)
  /-- How long a queue or history is and whether it is closed. -/
  | info (length : Nat) (isClosed : Bool)
  | findings (values : List HistoryFinding)
  | snapshot (value : Snapshot)
  | digest (value : Digest)
  /-- The states of a coordinator before and after its start. -/
  | started (before after : Lifecycle)
  | lifecycle (state : Lifecycle)
  /-- The modules of a coordinator; none once it has been taken down. -/
  | modules (values : Option (List (String × ModuleState)))
  | answer (value : HandleAnswer)
  /-- Listening would not end. -/
  | wouldBlock
  /-- How many of several calls succeeded, and how the coordinator is afterwards. -/
  | accepted (count : Nat) (status : Status)
  | policy (value : RecordingPolicy)
  | events (values : List Event)
  | outcomes (reached : Bool) (values : List (MessageId × Except CoordinatorError Outcome))
  | summary (value : Summary)
  | verification (value : Verification)
  | listing (values : List ListedMessage)
  | ran (result : CommandLine.Result)
  deriving Inhabited

/-- The reply to a step that succeeded with a value or failed. -/
def Reply.ofExcept {ε α : Type} (wrap : ε → Failure) (reply : α → Reply) : Except ε α → Reply
  | .ok a => reply a
  | .error e => .failed (wrap e)

end Replica.Workbench
