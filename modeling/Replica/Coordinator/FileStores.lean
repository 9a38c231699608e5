/-
The stores of a coordinator on files: the queue, the history and the state file
in one locked data directory.
-/
import Replica.Coordinator.Config
import Replica.Coordinator.Stores
import Replica.Directory
import Replica.History
import Replica.State

namespace Replica

/-- Open stores in a data directory and the file system they lie in. -/
structure FileStores where
  queue : Queue OpenFile
  history : History OpenFile
  state : StateStore
  /-- The locked directory; none once the lock has been given back. -/
  directory : Option DataDirectory
  disk : FileSystem

namespace FileStores

variable {α : Type}

/-- An action on the stores. -/
abbrev Action (α : Type) := EStateM StoreError FileStores α

/-- The queue and the file system. -/
def queuePart : Part FileStores (Queue OpenFile × FileSystem) :=
  ⟨fun s => (s.queue, s.disk), fun (queue, disk) s => { s with queue, disk }⟩

/-- The history and the file system. -/
def historyPart : Part FileStores (History OpenFile × FileSystem) :=
  ⟨fun s => (s.history, s.disk), fun (history, disk) s => { s with history, disk }⟩

/-- The state store and the file system. -/
def statePart : Part FileStores (StateStore × FileSystem) :=
  ⟨fun s => (s.state, s.disk), fun (state, disk) s => { s with state, disk }⟩

/-- Gives the lock of the directory back, once. -/
def release (stores : FileStores) : FileStores :=
  match stores.directory with
  | some directory =>
    { stores with directory := none, disk := directory.release stores.disk }
  | none => stores

/-- The stores after an action, whatever came of it. -/
def after (act : Action α) (stores : FileStores) : FileStores :=
  match act stores with
  | .ok _ stores' => stores'
  | .error _ stores' => stores'

/-- Opens the three stores of a directory whose lock is held. -/
def openIn (directory : DataDirectory) (options : StoreOptions) (fold : Fold) :
    EStateM StoreError FileSystem FileStores := do
  let queue ← Queue.openFile (DataDirectory.queuePath directory.path) options
  let history ← History.openFile (DataDirectory.historyPath directory.path) options
  let state ← StateStore.openFile (DataDirectory.statePath directory.path) fold
  return ⟨queue, history, state, some directory, ← get⟩

/-- Locks the data directory of a configuration and opens its stores. If a store does not open,
the lock is given back. -/
def «open» (config : Config) (fold : Fold) : EStateM StoreError FileSystem FileStores := do
  let directory ← DataDirectory.open config.dataDirectory config.createIfMissing
  fun disk =>
    match openIn directory config.stores fold disk with
    | .ok stores disk' => .ok stores disk'
    | .error e disk' => .error e (directory.release disk')

end FileStores

instance : MessageStores FileStores where
  fold message := FileStores.statePart.run (StateStore.apply message)
  enqueue message := FileStores.queuePart.run (Queue.enqueue message)
  push message := FileStores.historyPart.run (History.push message)
  dequeue := FileStores.queuePart.run Queue.dequeue
  peek stores := stores.queue.peek
  reader stores := stores.history.reader
  digest stores := stores.state.digest
  pendingLength stores := stores.queue.length
  historyLength stores := stores.history.length
  closeQueue := FileStores.after (FileStores.queuePart.run Queue.close)
  closeHistory := FileStores.after (FileStores.historyPart.run History.close)
  closeState stores := { stores with state := stores.state.close }
  release := FileStores.release

end Replica
