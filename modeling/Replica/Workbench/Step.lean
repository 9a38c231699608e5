/-
The steps a workbench takes, group by group.

Paths in steps are paths as the file system of the bench writes them.
-/
import Replica.CommandLine
import Replica.Coordinator.Config
import Replica.History.Query
import Replica.Strategy.Recording
import Replica.Strategy.Script
import Replica.ByteStore.Memory
import Replica.State.Fold

namespace Replica.Workbench

/-- Changing files by hand, and replacing them whole. -/
inductive FileStep
  /-- Gives a file these bytes, in place. -/
  | write (path : String) (data : Bytes)
  /-- Writes behind the end of an existing file. -/
  | append (path : String) (data : Bytes)
  /-- Flips the bits of one byte that are set in `mask`. -/
  | flip (path : String) (offset : Nat) (mask : UInt8)
  /-- Cuts off the last `n` bytes, or all. -/
  | chop (path : String) (n : Nat)
  | remove (path : String)
  | makeDirectories (path : String)
  | removeDirectory (path : String)
  | linkFull (path : String)
  | read (path : String)
  /-- Replaces a file through its temporary sibling. -/
  | replace (path : String) (data : Bytes)
  /-- Removes the temporary sibling. -/
  | removeStale (path : String)
  deriving DecidableEq, Repr, Inhabited

/-- What is done with a byte store. -/
inductive DeviceStep
  | append (data : Bytes)
  | readAt (offset len : Nat)
  | readAll
  | size
  | flush
  | sync
  | truncate (size : Nat)
  deriving DecidableEq, Repr, Inhabited

/-- How a file is opened as a byte store. -/
inductive OpenMode
  | plain
  | withDirectories
  | readOnly
  deriving DecidableEq, Repr, Inhabited

/-- What a log, a queue or a history is opened over. -/
inductive Source
  | file (path : String)
  /-- A new byte store in memory. -/
  | memory (data : Bytes) (plan : FaultPlan)
  deriving Inhabited

/-- What is done with the log. -/
inductive LogStep
  | «open» (source : Source) (format : LogFormat) (syncOnWrite : Bool)
  | append (kind : RecordKind) (payload : Bytes)
  | reset
  | sync
  | size
  deriving Inhabited

/-- What is done with the queue. -/
inductive QueueStep
  | «open» (source : Source) (options : StoreOptions)
  | enqueue (message : Message)
  | dequeue
  | peek
  | snapshot (limit : Nat)
  | info
  | close
  deriving Inhabited

/-- What is done with the history. -/
inductive HistoryStep
  | «open» (source : Source) (options : StoreOptions)
  | push (message : Message)
  | read (queries : List HistoryQuery)
  | info
  | close
  deriving Inhabited

/-- What is done with the state store. -/
inductive StateStep
  | «open» (path : String) (fold : Fold)
  /-- Reads a state file that need not be open. -/
  | read (path : String)
  | fold (message : Message)
  | digest
  | snapshot
  | isClosed
  | close

/-- What is done with the locks of data directories. -/
inductive LockStep
  | «open» (slot path : String) (createIfMissing : Bool)
  | drop (slot : String)
  deriving DecidableEq, Repr, Inhabited

/-- A module a coordinator is started with. -/
inductive ModulePlan
  | recording (plan : RecordingModule)
  | script (plan : ScriptModule)
  /-- The loop of this name, delivering to the loop named `target`. -/
  | loopback (name : String) (target : Option String)
  deriving DecidableEq, Repr, Inhabited

/-- Everything a coordinator is started with. -/
structure Launch where
  config : Config
  policy : RecordingPolicy
  fold : Fold
  modules : List ModulePlan

/-- What happens while a coordinator listens. -/
structure Meanwhile where
  /-- Somebody asks for a fatal shutdown. -/
  shutdown : Option CoordinatorError := none
  /-- A signal arrives. -/
  signal : Option ShutdownSignal := none
  deriving DecidableEq, Repr, Inhabited

/-- What is done with the coordinator of a node. -/
inductive NodeStep
  | start (launch : Launch)
  | startAndListen (launch : Launch) (meanwhile : Meanwhile)
  | call (call : HandleCall)
  | concurrent (calls : List HandleCall)
  | modules
  | stop
  | listen (meanwhile : Meanwhile)
  | signal (signal : ShutdownSignal)
  | policy

/-- What is done with loops and with time. -/
inductive LoopStep
  | create (name : String)
  | send (name : String) (message : Message)
  /-- Waits until so many messages have been handled. -/
  | outcomes (name : String) (count : Nat)
  /-- Lets a second pass. -/
  | settle
  deriving DecidableEq, Repr, Inhabited

/-- Looking at data directories. -/
inductive InspectionStep
  | summary (path : String)
  | verification (path : String)
  | queue (path : String) (limit : Option Nat)
  | history (path : String) (limit : Option Nat)
  | commandLine (args : List String)
  deriving DecidableEq, Repr, Inhabited

/-- A step. -/
inductive Step
  | files (step : FileStep)
  /-- Puts a byte store in memory on the bench. -/
  | openMemory (data : Bytes) (plan : FaultPlan)
  | memory (step : DeviceStep)
  /-- Puts an open file on the bench. -/
  | openFile (mode : OpenMode) (path : String)
  | file (step : DeviceStep)
  | log (step : LogStep)
  | queue (step : QueueStep)
  | history (step : HistoryStep)
  | state (step : StateStep)
  | lock (step : LockStep)
  | node (name : String) (step : NodeStep)
  /-- What modules have recorded so far. -/
  | events
  | loop (step : LoopStep)
  | inspect (step : InspectionStep)

end Replica.Workbench
