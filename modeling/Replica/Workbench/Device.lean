/-
The devices of a workbench: open files and numbered byte stores in memory.

A byte store in memory is known by its number, so that several things on the
bench can work on the same one.
-/
import Replica.ByteStore.Memory
import Replica.ByteStore.OpenFile

namespace Replica.Workbench

/-- A byte store on the bench. -/
inductive Device
  | file (file : OpenFile)
  /-- The byte store in memory with this number. -/
  | memory (number : Nat)
  deriving Inhabited

/-- The file system of a bench and its byte stores in memory. -/
structure World where
  disk : FileSystem
  memories : Table Nat MemoryStore := .empty
  deriving Inhabited

namespace World

/-- The file system. -/
def diskPart : Part World FileSystem := ⟨World.disk, fun disk w => { w with disk }⟩

/-- The byte store in memory with this number. -/
def memory (w : World) (number : Nat) : MemoryStore := (w.memories.get? number).getD {}

/-- Adds a byte store in memory; its number is returned. -/
def addMemory (w : World) (store : MemoryStore) : Nat × World :=
  let number := w.memories.rows.length
  (number, { w with memories := w.memories.insert number store })

end World

namespace Device

variable {α : Type}

/-- Runs an action on an open file. -/
def onFile (act : StoreAction OpenFile FileSystem α) (file : OpenFile) (w : World) :
    EStateM.Result StorageError (Device × World) α :=
  match act (file, w.disk) with
  | .ok a (file', disk) => .ok a (.file file', { w with disk })
  | .error e (file', disk) => .error e (.file file', { w with disk })

/-- Runs an action on a byte store in memory. -/
def onMemory (act : StoreAction MemoryStore Unit α) (number : Nat) (w : World) :
    EStateM.Result StorageError (Device × World) α :=
  match act (w.memory number, ()) with
  | .ok a (store, _) => .ok a (.memory number, { w with memories := w.memories.insert number store })
  | .error e (store, _) =>
    .error e (.memory number, { w with memories := w.memories.insert number store })

/-- Runs the action that fits the device. -/
def run (file : StoreAction OpenFile FileSystem α) (memory : StoreAction MemoryStore Unit α) :
    StoreAction Device World α := fun (device, w) =>
  match device with
  | .file f => onFile file f w
  | .memory number => onMemory memory number w

/-- The number of bytes on the device. -/
def size (device : Device) (w : World) : Nat :=
  match device with
  | .file f => ByteStore.size f w.disk
  | .memory number => ByteStore.size (w.memory number) ()

/-- `len` bytes from `offset` on. -/
def readAt (device : Device) (w : World) (offset len : Nat) : Except StorageError Bytes :=
  match device with
  | .file f => ByteStore.readAt f w.disk offset len
  | .memory number => ByteStore.readAt (w.memory number) () offset len

end Device

instance : ByteStore Device World where
  size := Device.size
  readAt := Device.readAt
  append data := Device.run (ByteStore.append data) (ByteStore.append data)
  flush := Device.run ByteStore.flush ByteStore.flush
  sync := Device.run ByteStore.sync ByteStore.sync
  truncate size := Device.run (ByteStore.truncate size) (ByteStore.truncate size)

end Replica.Workbench
