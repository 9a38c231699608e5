/-
Whole-file replacement.

A file is replaced through its temporary sibling: the new bytes are written
there and made durable, and one renaming puts them in place. The calls are
data (`Replacement.steps`), so that a crash is a prefix of them and a failure
is the number of the one that fails. Whatever happens before the renaming, the
file at the path keeps its bytes.
-/
import Replica.Disk.Action

namespace Replica

namespace Replacement

/-- One call of a replacement. -/
inductive Step
  /-- Makes the temporary file, or empties the one that is there. -/
  | create
  | write (data : Bytes)
  | sync
  /-- Puts the temporary file in place. -/
  | rename
  /-- Makes the renaming durable. -/
  | syncParent
  deriving DecidableEq, Repr, Inhabited

/-- The calls that replace a file's bytes with `data`, in order. -/
def steps (data : Bytes) : List Step := [.create, .write data, .sync, .rename, .syncParent]

/-- Makes one call for the file at `path`. -/
def Step.run (path : String) : Step → DiskAction Unit
  | create => do let _ ← FileSystem.openEmpty (Path.temporary path)
  | write data => do FileSystem.append (← FileSystem.openRead (Path.temporary path)) data
  | sync => do FileSystem.sync (← FileSystem.openRead (Path.temporary path))
  | rename => FileSystem.rename (Path.temporary path) path
  | syncParent => do
    match Path.parent? path with
    | some parent => FileSystem.sync (← FileSystem.openRead (if parent = "" then "." else parent))
    | none => pure ()

/-- What a call that fails may leave behind: a write leaves some leading bytes. -/
def Step.leave (path : String) (written : Nat) : Step → DiskAction Unit
  | write data => (write (data.take written)).run path
  | _ => pure ()

/-- A call that fails on its own. -/
structure Mishap where
  /-- The number of the call, from zero. -/
  step : Nat
  /-- The bytes a failing write leaves. -/
  written : Nat
  error : OsError
  deriving DecidableEq, Repr, Inhabited

/-- Makes calls in order until one fails; `n` is the number of the first. -/
def runFrom (mishap : Option Mishap) (path : String) : (n : Nat) → List Step → DiskAction Unit
  | _, [] => pure ()
  | n, step :: rest => do
    match mishap with
    | some m =>
      if m.step = n then
        step.leave path m.written
        throw m.error
    | none => pure ()
    step.run path
    runFrom mishap path (n + 1) rest

end Replacement

namespace FileSystem

/-- Replaces the bytes of the file at `path`, where one call may fail on its own. -/
def replaceWith (mishap : Option Replacement.Mishap) (path : String) (data : Bytes) :
    DiskAction Unit :=
  Replacement.runFrom mishap path 0 (Replacement.steps data)

/-- Replaces the bytes of the file at `path`. -/
def replace (path : String) (data : Bytes) : DiskAction Unit := replaceWith none path data

/-- Removes the temporary file an interrupted replacement left; true if there was one. -/
def removeStale (path : String) : DiskAction Bool := do
  if (← get).exists (Path.temporary path) then
    remove (Path.temporary path)
    return true
  else return false

end FileSystem

end Replica
