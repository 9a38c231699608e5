/-
The state store: the convergence digest and the number of messages in it.

Every fold replaces the whole state file and only then changes the snapshot in
memory, so the file always holds the snapshot before or after a
fold, never a mix.
-/
import Replica.Focus
import Replica.Disk.Replacement
import Replica.State.Fold
import Replica.State.Snapshot

namespace Replica

/-- An open state file. -/
structure StateStore where
  path : String
  fold : Fold
  snapshot : Snapshot
  isClosed : Bool

namespace StateStore

/-- An action on a state store and the file system. -/
abbrev Action (α : Type) := EStateM StoreError (StateStore × FileSystem) α

/-- Reads the state file at `path`. -/
def readSnapshot (disk : FileSystem) (path : String) : Except StoreError Snapshot :=
  match disk.readAll path with
  | .error e => .error (.ofOs e)
  | .ok image => Snapshot.decode image

/-- Writes the first snapshot of a state file that does not exist, where one call of the replacement
may fail on its own. -/
def createWith (mishap : Option Replacement.Mishap) (path : String) (fold : Fold) :
    EStateM StoreError FileSystem Snapshot := do
  match Path.parent? path with
  | some parent => (FileSystem.makeDirectories parent).adaptExcept .ofOs
  | none => pure ()
  let snapshot : Snapshot := ⟨fold.initial, 0⟩
  (FileSystem.replaceWith mishap path snapshot.encode).adaptExcept .ofStorageOs
  return snapshot

/-- Opens or makes the state file at `path`, where one call of a replacement may fail on its own. -/
def openFileWith (mishap : Option Replacement.Mishap) (path : String) (fold : Fold) :
    EStateM StoreError FileSystem StateStore := do
  let _ ← (FileSystem.removeStale path).adaptExcept .ofStorageOs
  let snapshot ←
    if (← get).exists path then observe (readSnapshot · path) else createWith mishap path fold
  return ⟨path, fold, snapshot, false⟩

/-- Opens or makes the state file at `path`. -/
def openFile (path : String) (fold : Fold) : EStateM StoreError FileSystem StateStore :=
  openFileWith none path fold

/-- The current snapshot of an open store. -/
def current (state : StateStore) : Except StoreError Snapshot :=
  if state.isClosed then .error (.closed stateName) else .ok state.snapshot

/-- The current digest of an open store. -/
def digest (state : StateStore) : Except StoreError Digest :=
  match state.current with
  | .error e => .error e
  | .ok snapshot => .ok snapshot.digest

/-- The snapshot after one more message. -/
def next (state : StateStore) (message : Message) : Snapshot :=
  ⟨state.fold.step state.snapshot.digest message, state.snapshot.applied + 1⟩

/-- Folds a message in and makes that durable, where one call of the replacement may fail on its
own. A fold that fails leaves the snapshot in memory alone. -/
def applyWith (mishap : Option Replacement.Mishap) (message : Message) : Action Digest :=
  fun (state, disk) =>
    if state.isClosed then .error (.closed stateName) (state, disk)
    else
      let next := state.next message
      match FileSystem.replaceWith mishap state.path next.encode disk with
      | .error e disk' => .error (.ofStorageOs e) (state, disk')
      | .ok _ disk' => .ok next.digest ({ state with snapshot := next }, disk')

/-- Folds a message in and makes that durable. -/
def apply (message : Message) : Action Digest := applyWith none message

/-- Closes the store. Every fold is durable already. -/
def close (state : StateStore) : StateStore := { state with isClosed := true }

end StateStore

end Replica
