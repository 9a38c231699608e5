/-
Open files as byte stores.

An open file remembers the size it believes the file has. The file system is
the world it lives in, and others may change the file there: a file that became
shorter is read short, and an append goes to where the file really ends while
it returns the offset the store believed in.
-/
import Replica.ByteStore
import Replica.Disk.Action

namespace Replica

/-- An open file. -/
structure OpenFile where
  path : String
  /-- What the path led to when it was opened. -/
  target : Entry
  /-- The size the file is believed to have. -/
  size : Nat
  readOnly : Bool
  deriving DecidableEq, Repr, Inhabited

namespace OpenFile

/-- The file behind an entry just opened. -/
def ofEntry (path : String) (readOnly : Bool) (entry : Entry) (disk : FileSystem) : OpenFile :=
  ⟨path, entry, disk.length entry, readOnly⟩

/-- Opens a file for reading and writing, making it if there is none. -/
def «open» (path : String) : DiskAction OpenFile := do
  let entry ← FileSystem.openWrite path
  return ofEntry path false entry (← get)

/-- Opens a file after making the directories above it. -/
def openWithDirectories (path : String) : DiskAction OpenFile := do
  match Path.parent? path with
  | some parent => FileSystem.makeDirectories parent
  | none => pure ()
  OpenFile.open path

/-- Opens an existing file for reading only. -/
def openReadOnly (path : String) : DiskAction OpenFile := do
  let entry ← FileSystem.openRead path
  return ofEntry path true entry (← get)

/-- `len` bytes from `offset` on. -/
def readAt (file : OpenFile) (disk : FileSystem) (offset len : Nat) : Except StorageError Bytes :=
  match ByteStore.checkRange offset len file.size with
  | .error e => .error e
  | .ok () =>
    if len = 0 then .ok []
    else match disk.readRange file.target offset len with
      | .ok data => .ok data
      | .error e => .error (.io e)

/-- Runs a call of the file system for an open file. -/
def onDisk {α : Type} (act : DiskAction α) : StoreAction OpenFile FileSystem α :=
  Part.right.lift (fun e => .io (.os e)) act

/-- Fails for a file that was opened for reading only. -/
def ensureWritable : StoreAction OpenFile FileSystem Unit := fun (file, disk) =>
  if file.readOnly then .error (.io (.readOnly file.path)) (file, disk)
  else .ok () (file, disk)

/-- Writes at the end of the file. -/
def append (data : Bytes) : StoreAction OpenFile FileSystem Nat := do
  ensureWritable
  let (file, _) ← get
  if data = [] then return file.size
  onDisk (FileSystem.append file.target data)
  modify fun (file, disk) => ({ file with size := file.size + data.length }, disk)
  return file.size

/-- Nothing is buffered. -/
def flush : StoreAction OpenFile FileSystem Unit := pure ()

/-- Makes the file durable. -/
def sync : StoreAction OpenFile FileSystem Unit := do
  let (file, _) ← get
  if file.readOnly then return
  onDisk (FileSystem.sync file.target)

/-- Cuts the end off and makes that durable. -/
def truncate (size : Nat) : StoreAction OpenFile FileSystem Unit := do
  ensureWritable
  let (file, _) ← get
  if file.size < size then throw (.truncateBeyondEnd size file.size)
  onDisk (FileSystem.setLength file.target size)
  onDisk (FileSystem.sync file.target)
  modify fun (file, disk) => ({ file with size := size }, disk)

end OpenFile

instance : ByteStore OpenFile FileSystem where
  size file _ := file.size
  readAt := OpenFile.readAt
  append := OpenFile.append
  flush := OpenFile.flush
  sync := OpenFile.sync
  truncate := OpenFile.truncate

end Replica
