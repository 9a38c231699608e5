/-
A file system as a value: one tree of directories.

Names and contents are apart. A name leads to a file number, and a number to
bytes, so a file that is open keeps its bytes when its name is removed or comes
to lead elsewhere. Advisory locks belong to what a name led to when it was
opened. A name may also be a link to the device that is always full: it opens,
has no bytes, refuses every byte written to it and cannot change its length.

Here are the tree, the way a path leads through it, and what can be seen of it;
`Replica.Disk.Action` holds the calls that change it.
-/
import Replica.Bytes
import Replica.Table
import Replica.Disk.Route

namespace Replica

/-- A place in the tree: the names that lead to it from the root. -/
abbrev Place := List String

/-- What a name stands for. -/
inductive Entry
  | directory
  | file (number : Nat)
  /-- A link to the device that is always full. -/
  | full
  deriving DecidableEq, Repr, Inhabited

/-- A tree of directories, the bytes of its files and the locks held on them. -/
structure FileSystem where
  names : Table Place Entry := .empty
  contents : Table Nat Bytes := .empty
  locked : List Entry := []
  /-- No file has this number or a greater one. -/
  fresh : Nat := 0
  /-- The directory in which paths start that do not start at the root. -/
  working : Place := []
  deriving Inhabited

namespace FileSystem

/-- The entry at a place; the root is a directory. -/
def entry? (disk : FileSystem) (place : Place) : Option Entry :=
  if place = [] then some .directory else disk.names.get? place

/-- The bytes of a file. -/
def bytes (disk : FileSystem) (number : Nat) : Bytes := (disk.contents.get? number).getD []

/-- Gives a file its bytes. -/
def setBytes (disk : FileSystem) (number : Nat) (data : Bytes) : FileSystem :=
  { disk with contents := disk.contents.insert number data }

/-! ## From paths to places -/

/-- What a directory holds under a name. Names that are too long are not looked for. -/
def find (disk : FileSystem) (here : Place) (name : String) : Except OsError (Option Entry) :=
  if Route.nameLimit < name.utf8ByteSize then .error .nameTooLong
  else .ok (disk.entry? (here ++ [name]))

/-- The directory a piece leads to from a directory. -/
def enter (disk : FileSystem) (here : Place) : Piece → Except OsError Place
  | .stay => .ok here
  | .up => .ok here.dropLast
  | .name name =>
    match disk.find here name with
    | .error e => .error e
    | .ok (some .directory) => .ok (here ++ [name])
    | .ok (some _) => .error .notDirectory
    | .ok none => .error .notFound

/-- The directory that pieces lead to from a directory, one after the other. -/
def follow (disk : FileSystem) : (here : Place) → List Piece → Except OsError Place
  | here, [] => .ok here
  | here, piece :: pieces =>
    match disk.enter here piece with
    | .error e => .error e
    | .ok there => disk.follow there pieces

/-- The directory in which a path ends, and how it ends there. -/
def resolve (disk : FileSystem) (path : String) : Except OsError (Place × Ending) :=
  match Route.ofPath path with
  | .error e => .error e
  | .ok route =>
    match disk.follow (if route.isAbsolute then [] else disk.working) route.through with
    | .error e => .error e
    | .ok here => .ok (here, route.ending)

/-- What a path leads to. Only a directory may have a slash behind its name. -/
def lookup (disk : FileSystem) (path : String) : Except OsError Entry :=
  match disk.resolve path with
  | .error e => .error e
  | .ok (here, .name name slash) =>
    match disk.find here name with
    | .error e => .error e
    | .ok none => .error .notFound
    | .ok (some entry) => if slash && entry ≠ .directory then .error .notDirectory else .ok entry
  | .ok _ => .ok .directory

/-- Whether a path leads to anything. -/
def «exists» (disk : FileSystem) (path : String) : Bool := (disk.lookup path).isOk

/-- Whether a path leads to a directory. -/
def isDirectory (disk : FileSystem) (path : String) : Bool :=
  match disk.lookup path with
  | .ok .directory => true
  | _ => false

/-! ## What can be seen -/

/-- The length a directory shows; only directories opened for reading have one. -/
def directoryLength : Nat := 4096

/-- The length of what a name stands for. -/
def length (disk : FileSystem) : Entry → Nat
  | .file number => (disk.bytes number).length
  | .full => 0
  | .directory => directoryLength

/-- `len` bytes from `offset` on: none if the file ends before them. -/
def readRange (disk : FileSystem) (entry : Entry) (offset len : Nat) : Except IoError Bytes :=
  match entry with
  | .directory => .error (.os .isDirectory)
  | .full => .ok (List.replicate len 0)
  | .file number =>
    let found := ((disk.bytes number).drop offset).take len
    if found.length = len then .ok found else .error .shortRead

/-- All bytes of the file at a path. The full device has no end and counts as unreadable. -/
def readAll (disk : FileSystem) (path : String) : Except OsError Bytes :=
  match disk.lookup path with
  | .error e => .error e
  | .ok (.file number) => .ok (disk.bytes number)
  | .ok .directory => .error .isDirectory
  | .ok .full => .error .invalidArgument

/-- Whether anything lies below a place. -/
def isOccupied (disk : FileSystem) (place : Place) : Bool :=
  disk.names.rows.any fun row => place.isPrefixOf row.1 && row.1 ≠ place

/-- Every name below a place, as it is written from there, with what it stands for. -/
def listing (disk : FileSystem) (top : Place) : List (String × Entry) :=
  disk.names.rows.filterMap fun (place, entry) =>
    if top.isPrefixOf place && place ≠ top then
      some ("/".intercalate (place.drop top.length), entry)
    else none

/-! ## Locks -/

/-- Takes the exclusive lock of an open file; false if somebody holds it. -/
def tryLock (disk : FileSystem) (entry : Entry) : Bool × FileSystem :=
  if entry ∈ disk.locked then (false, disk)
  else (true, { disk with locked := entry :: disk.locked })

/-- Gives the lock of an open file back. -/
def unlock (disk : FileSystem) (entry : Entry) : FileSystem :=
  { disk with locked := disk.locked.filter (· ≠ entry) }

end FileSystem

end Replica
