/-
Running steps on a workbench: each step with its reply and the directory tree
it leaves.
-/
import Replica.Workbench.Nodes
import Replica.Workbench.Stores

namespace Replica.Workbench

/-- A step that looks at data directories. -/
def inspectionStep (disk : FileSystem) : InspectionStep → Reply
  | .summary path => .ofExcept .inspection .summary (Summary.collect disk path)
  | .verification path => .ofExcept .inspection .verification (Verification.collect disk path)
  | .queue path limit => .ofExcept .inspection .listing (ListedMessage.ofQueue disk path limit)
  | .history path limit => .ofExcept .inspection .listing (ListedMessage.ofHistory disk path limit)
  | .commandLine args => .ran (CommandLine.run disk args)

/-- Takes a step. -/
def step : Step → Action
  | .files step => fileStep step
  | .openMemory data plan => fun w => (.done, (openMemory data plan w).2)
  | .memory step => memoryStep step
  | .openFile mode path => openFile mode path
  | .file step => openFileStep step
  | .log step => logStep step
  | .queue step => queueStep step
  | .history step => historyStep step
  | .state step => stateStep step
  | .lock step => lockStep step
  | .node name step => nodeStep name step
  | .events => fun w => (.events w.events, w)
  | .loop step => loopStep step
  | .inspect step => fun w => (inspectionStep w.disk step, w)

/-- What a name in the directory tree stands for. -/
inductive Listed
  | directory
  | file (length : Nat)
  /-- A link to the device that is always full. -/
  | full
  deriving DecidableEq, Repr, Inhabited

/-- What an entry shows. -/
def Listed.ofEntry (disk : FileSystem) : Entry → Listed
  | .directory => directory
  | .file number => file (disk.length (.file number))
  | .full => full

/-- Every name in the directory of the bench with what it stands for. -/
def listing (w : Workbench) : List (String × Listed) :=
  (w.disk.listing w.top).map fun (name, entry) => (name, Listed.ofEntry w.disk entry)

/-- Takes steps in order; each reply with the directory tree after it. -/
def run : List Step → Workbench → List (Reply × List (String × Listed))
  | [], _ => []
  | s :: rest, w =>
    let (reply, w) := step s w
    (reply, listing w) :: run rest w

end Replica.Workbench
