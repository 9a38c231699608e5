/-
Data directories: where the stores of one coordinator lie, and the lock that
keeps every other coordinator out.
-/
import Replica.Disk.Action
import Replica.Error

namespace Replica

/-- A data directory whose lock is held. -/
structure DataDirectory where
  path : String
  /-- The open lock file. -/
  lock : Entry
  deriving DecidableEq, Repr, Inhabited

namespace DataDirectory

/-- The name of the lock file. -/
def lockFile : String := "LOCK"

/-- The name of the queue file. -/
def queueFile : String := "sync.queue"

/-- The name of the history file. -/
def historyFile : String := "history.stack"

/-- The name of the state file. -/
def stateFile : String := "state.db"

/-- The queue file in the directory at `path`. -/
def queuePath (path : String) : String := Path.join path queueFile

/-- The history file in the directory at `path`. -/
def historyPath (path : String) : String := Path.join path historyFile

/-- The state file in the directory at `path`. -/
def statePath (path : String) : String := Path.join path stateFile

/-- Makes sure that `path` is a directory, making it if it is missing and may be made. -/
def ensure (path : String) (createIfMissing : Bool) : EStateM StoreError FileSystem Unit := do
  if !(← get).exists path then
    if createIfMissing then (FileSystem.makeDirectories path).adaptExcept .ofOs
    else throw (.invalidDirectory s!"{path} does not exist")
  if !(← get).isDirectory path then
    throw (.invalidDirectory s!"{path} is not a directory")

/-- Opens the directory at `path` and takes its lock. -/
def «open» (path : String) (createIfMissing : Bool) :
    EStateM StoreError FileSystem DataDirectory := do
  ensure path createIfMissing
  let lock ← (FileSystem.openWrite (Path.join path lockFile)).adaptExcept .ofOs
  let (taken, disk) := (← get).tryLock lock
  set disk
  if taken then return ⟨path, lock⟩ else throw (.directoryLocked path)

/-- Gives the lock back. -/
def release (directory : DataDirectory) (disk : FileSystem) : FileSystem :=
  disk.unlock directory.lock

end DataDirectory

end Replica
