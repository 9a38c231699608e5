/-
The calls that open files and change a file system.

Every call is total; one that fails changes nothing. Where a path ends in dots
or in a slash, each call has its own error for it, and it is found only after
the directories on the way have been gone through.
-/
import Replica.Disk.FileSystem

namespace Replica

/-- An action on the file system that may fail. -/
abbrev DiskAction (α : Type) := EStateM OsError FileSystem α

namespace FileSystem

/-! ## Opening -/

/-- Opens an existing path for reading. -/
def openRead (path : String) : DiskAction Entry := do
  match (← get).lookup path with
  | .ok entry => return entry
  | .error e => throw e

/-- Opens a path for reading and writing, making an empty file if there is none. No file is made or
opened under a name with a slash behind it. -/
def openWrite (path : String) : DiskAction Entry := do
  let disk ← get
  match disk.resolve path with
  | .error e => throw e
  | .ok (here, .name name false) =>
    match disk.find here name with
    | .error e => throw e
    | .ok (some .directory) => throw .isDirectory
    | .ok (some entry) => return entry
    | .ok none =>
      set { disk with
        names := disk.names.insert (here ++ [name]) (.file disk.fresh)
        contents := disk.contents.insert disk.fresh []
        fresh := disk.fresh + 1 }
      return .file disk.fresh
  | .ok _ => throw .isDirectory

/-- Opens a path for writing and drops the bytes it held. -/
def openEmpty (path : String) : DiskAction Entry := do
  let entry ← openWrite path
  match entry with
  | .file number => modify fun disk => disk.setBytes number []
  | _ => pure ()
  return entry

/-! ## Open files -/

/-- Writes behind the last byte. -/
def append (entry : Entry) (data : Bytes) : DiskAction Unit := do
  match entry with
  | .file number =>
    modify fun disk => disk.setBytes number (disk.bytes number ++ data)
  | .full => if data = [] then pure () else throw .noSpace
  | .directory => throw .isDirectory

/-- Shortens a file to `len` bytes, or lengthens it with zeros. -/
def setLength (entry : Entry) (len : Nat) : DiskAction Unit := do
  match entry with
  | .file number =>
    modify fun disk =>
      let old := disk.bytes number
      disk.setBytes number (old.take len ++ List.replicate (len - old.length) 0)
  | _ => throw .invalidArgument

/-- Makes what was written durable. -/
def sync (entry : Entry) : DiskAction Unit := do
  match entry with
  | .full => throw .invalidArgument
  | _ => pure ()

/-- Gives the file at a path these bytes, making it if there is none. -/
def writeAll (path : String) (data : Bytes) : DiskAction Unit := do
  append (← openEmpty path) data

/-! ## Names -/

/-- Removes a name that is not a directory. -/
def remove (path : String) : DiskAction Unit := do
  let disk ← get
  match disk.resolve path with
  | .error e => throw e
  | .ok (here, .name name slash) =>
    match disk.find here name with
    | .error e => throw e
    | .ok none => throw .notFound
    | .ok (some .directory) => throw .isDirectory
    | .ok (some _) =>
      if slash then throw .notDirectory
      else set { disk with names := disk.names.erase (here ++ [name]) }
  | .ok _ => throw .isDirectory

/-- Lets `new` stand for what `old` stood for, in one step. Directories stay where they are, and a
name cannot be given to what is no directory with a slash behind it. -/
def rename (old new : String) : DiskAction Unit := do
  let disk ← get
  match disk.resolve old, disk.resolve new with
  | .error e, _ => throw e
  | _, .error e => throw e
  | .ok (here, .name oldName oldSlash), .ok (there, .name newName newSlash) =>
    match disk.find here oldName, disk.find there newName with
    | .error e, _ => throw e
    | .ok none, _ => throw .notFound
    | _, .error e => throw e
    | .ok (some entry), .ok target =>
      if entry = .directory then throw .isDirectory
      else if oldSlash || newSlash then throw .notDirectory
      else if target = some .directory then throw .isDirectory
      else
        set { disk with
          names := (disk.names.erase (here ++ [oldName])).insert (there ++ [newName]) entry }
  | .ok _, .ok _ => throw .busy

/-- Makes a directory whose parent exists. -/
def makeDirectory (path : String) : DiskAction Unit := do
  let disk ← get
  match disk.resolve path with
  | .error e => throw e
  | .ok (here, .name name _) =>
    match disk.find here name with
    | .error e => throw e
    | .ok (some _) => throw .alreadyExists
    | .ok none => set { disk with names := disk.names.insert (here ++ [name]) .directory }
  | .ok _ => throw .alreadyExists

/-- Makes a directory unless it is there already. -/
def ensureDirectory (path : String) : DiskAction Unit := fun disk =>
  match makeDirectory path disk with
  | .ok _ disk' => .ok () disk'
  | .error e disk' => if disk'.isDirectory path then .ok () disk' else .error e disk'

/-- Makes the first of these directories; those that follow are the ones above it. -/
def makeDirectoriesFrom : List String → DiskAction Unit
  | [] => throw .notFound
  | path :: above => fun disk =>
    if path = "" then .ok () disk
    else match ensureDirectory path disk with
      | .error .notFound _ =>
        match makeDirectoriesFrom above disk with
        | .error e disk' => .error e disk'
        | .ok _ disk' => ensureDirectory path disk'
      | done => done

/-- Makes a directory and every missing directory above it. -/
def makeDirectories (path : String) : DiskAction Unit :=
  makeDirectoriesFrom (Path.ancestors path)

/-- Removes an empty directory. -/
def removeDirectory (path : String) : DiskAction Unit := do
  let disk ← get
  match disk.resolve path with
  | .error e => throw e
  | .ok (here, .name name _) =>
    match disk.find here name with
    | .error e => throw e
    | .ok none => throw .notFound
    | .ok (some .directory) =>
      if disk.isOccupied (here ++ [name]) then throw .notEmpty
      else set { disk with names := disk.names.erase (here ++ [name]) }
    | .ok (some _) => throw .notDirectory
  | .ok (_, .stay) => throw .invalidArgument
  | .ok (_, .up) => throw .notEmpty
  | .ok (_, .root) => throw .busy

/-- Makes a link to the device that is always full. -/
def linkFull (path : String) : DiskAction Unit := do
  let disk ← get
  match disk.resolve path with
  | .error e => throw e
  | .ok (here, .name name slash) =>
    match disk.find here name with
    | .error e => throw e
    | .ok (some _) => throw .alreadyExists
    | .ok none =>
      if slash then throw .notFound
      else set { disk with names := disk.names.insert (here ++ [name]) .full }
  | .ok _ => throw .alreadyExists

end FileSystem

end Replica
