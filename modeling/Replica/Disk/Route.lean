/-
How the file system reads a path: the directories to go through, one after the
other, and how the path ends.

Several slashes count as one, and a single dot stays where it is. How a path
ends matters to the calls: a slash behind the last name asks for a directory,
and dots name a directory without naming it in the directory above.
-/
import Replica.Path
import Replica.Disk.Fault

namespace Replica

/-- A piece of a path. -/
inductive Piece
  /-- Stays in the directory. -/
  | stay
  /-- Goes to the directory above. -/
  | up
  | name (name : String)
  deriving DecidableEq, Repr, Inhabited

/-- The piece written so. -/
def Piece.ofText (text : List Char) : Piece :=
  if text = ['.'] then stay
  else if text = ['.', '.'] then up
  else name (String.ofList text)

/-- How a path ends. -/
inductive Ending
  /-- At a name; `slash` tells whether slashes stand behind it. -/
  | name (name : String) (slash : Bool)
  /-- At a single dot. -/
  | stay
  /-- At a double dot. -/
  | up
  /-- At nothing: the path is made of slashes. -/
  | root
  deriving DecidableEq, Repr, Inhabited

/-- The ending a last piece makes. -/
def Ending.ofPiece (slash : Bool) : Piece → Ending
  | .stay => stay
  | .up => up
  | .name n => name n slash

/-- A path as the file system reads it. -/
structure Route where
  /-- Whether it starts at the root; else it starts in the working directory. -/
  isAbsolute : Bool
  /-- What leads to the directory in which the path ends. -/
  through : List Piece
  ending : Ending
  deriving DecidableEq, Repr, Inhabited

namespace Route

/-- The bytes a name may have. -/
def nameLimit : Nat := 255

/-- No path has so many bytes. -/
def pathLimit : Nat := 4096

/-- The route of a path that may be one. -/
def ofText (text : List Char) : Route :=
  let texts := (Path.pieces 0 [] text).map (·.name)
  let isAbsolute := Path.isAbsolute text
  match (texts.filter (· ≠ [])).reverse with
  | [] => ⟨isAbsolute, [], .root⟩
  | last :: before =>
    ⟨isAbsolute, before.reverse.map Piece.ofText,
      .ofPiece (texts.getLast? = some []) (Piece.ofText last)⟩

/-- The route of a path. A path must not hold the character zero, be empty or be too long. -/
def ofPath (path : String) : Except OsError Route :=
  let text := path.toList
  if '\x00' ∈ text then .error .zeroInPath
  else if text = [] then .error .notFound
  else if pathLimit ≤ path.utf8ByteSize then .error .nameTooLong
  else .ok (ofText text)

end Route

end Replica
