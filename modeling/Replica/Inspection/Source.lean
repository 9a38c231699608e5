/-
Looking at a data directory without changing it: what every inspection reads
and why it fails.
-/
import Replica.Directory
import Replica.History
import Replica.State

namespace Replica

/-- Why an inspection fails. -/
inductive InspectionError
  | storage (cause : StorageError)
  | store (cause : StoreError)
  | plain (text : String)
  deriving DecidableEq, Repr, Inhabited

namespace InspectionError

/-- What is said about the failure. -/
def message : InspectionError → String
  | storage cause => cause.message
  | store cause => cause.message
  | plain text => text

/-- The failure as a structured value in text form. -/
def debug : InspectionError → String
  | storage cause => cause.debug
  | store cause => cause.debug
  | plain text => Text.quoted text

end InspectionError

namespace Inspection

/-- Fails unless there is at least one store file at `path`. -/
def requireStores (disk : FileSystem) (path : String) : Except InspectionError Unit :=
  let files := [DataDirectory.queuePath path, DataDirectory.historyPath path,
    DataDirectory.statePath path]
  if files.any disk.exists then .ok ()
  else .error (.plain s!"No Concordia data directory found at {path}")

/-- Scans the log at `path`; none if there is no file. -/
def readLog (disk : FileSystem) (path : String) (format : LogFormat) :
    Except InspectionError (Option Scan) :=
  if !disk.exists path then .ok none
  else match OpenFile.openReadOnly path disk with
    | .error e _ => .error (.storage (.io (.os e)))
    | .ok file disk' =>
      match ByteStore.readAll file disk' with
      | .error e => .error (.storage e)
      | .ok image =>
        match scan format image with
        | .error e => .error (.store e)
        | .ok found => .ok (some found)

/-- The queue log at a data directory, replayed; none if there is no file. -/
def readQueue (disk : FileSystem) (path : String) :
    Except InspectionError (Option (Scan × QueueReplay)) :=
  match readLog disk (DataDirectory.queuePath path) queueFormat with
  | .error e => .error e
  | .ok none => .ok none
  | .ok (some found) =>
    match replayQueue found.records with
    | .error e => .error (.store e)
    | .ok replay => .ok (some (found, replay))

/-- The history log at a data directory, replayed; none if there is no file. -/
def readHistory (disk : FileSystem) (path : String) :
    Except InspectionError (Option (Scan × List Message)) :=
  match readLog disk (DataDirectory.historyPath path) historyFormat with
  | .error e => .error e
  | .ok none => .ok none
  | .ok (some found) =>
    match replayHistory found.records with
    | .error e => .error (.store e)
    | .ok entries => .ok (some (found, entries))

/-- The state file at a data directory; none if there is no file. -/
def readState (disk : FileSystem) (path : String) : Except InspectionError (Option Snapshot) :=
  if !disk.exists (DataDirectory.statePath path) then .ok none
  else match StateStore.readSnapshot disk (DataDirectory.statePath path) with
    | .error e => .error (.store e)
    | .ok snapshot => .ok (some snapshot)

/-- The size of the file at `path`; zero if there is none. -/
def fileSize (disk : FileSystem) (path : String) : Nat :=
  match disk.lookup path with
  | .ok entry => disk.length entry
  | .error _ => 0

end Inspection

end Replica
