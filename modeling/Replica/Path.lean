/-
Path arithmetic on path texts: components, the parent, the last name and
siblings.

A path is read as components between slashes. Empty components and single dots
count for nothing, except a dot that begins a relative path; a double dot is a
component but not a name.
-/
namespace Replica.Path

/-- A component of a path and the position just behind it in the text. -/
structure Component where
  name : List Char
  stop : Nat
  deriving DecidableEq

/-- Whether a piece between slashes is a component; `first` marks the start of a relative path. -/
def counts (first : Bool) (piece : List Char) : Bool :=
  piece ≠ [] && (piece ≠ ['.'] || first)

/-- The pieces of a text between slashes, each with the position behind it. -/
def pieces : (start : Nat) → (piece : List Char) → List Char → List Component
  | at_, piece, [] => [⟨piece.reverse, at_⟩]
  | at_, piece, c :: cs =>
    if c = '/' then ⟨piece.reverse, at_⟩ :: pieces (at_ + 1) [] cs
    else pieces (at_ + 1) (c :: piece) cs

/-- Whether a path starts at the root. -/
def isAbsolute (path : List Char) : Bool := path.head? = some '/'

/-- The components of a path, in order. -/
def components (path : List Char) : List Component :=
  match pieces 0 [] path with
  | [] => []
  | first :: rest =>
    let rest := rest.filter fun c => counts false c.name
    if counts (!isAbsolute path) first.name then first :: rest else rest

/-- The name a path ends in: none if it has no component or ends in a double dot. -/
def fileName? (path : String) : Option String :=
  match (components path.toList).getLast? with
  | some c => if c.name = ['.', '.'] || c.name = ['.'] then none else some (String.ofList c.name)
  | none => none

/-- The path without its last component; none if it has no component. -/
def parent? (path : String) : Option String :=
  let text := path.toList
  match (components text).reverse with
  | [] => none
  | _ :: before =>
    let stop := match before with
      | c :: _ => c.stop
      | [] => if isAbsolute text then 1 else 0
    some (String.ofList (text.take stop))

/-- `name` below `path`; an absolute name stands for itself. -/
def join (path name : String) : String :=
  if isAbsolute name.toList || path.isEmpty then name
  else if path.toList.getLast? = some '/' then path ++ name
  else path ++ "/" ++ name

/-- The path with its last name replaced, or extended by `name` if it has no last name. -/
def withFileName (path name : String) : String :=
  match fileName? path with
  | some _ => join ((parent? path).getD "") name
  | none => join path name

/-- The temporary sibling a file is written to before it replaces the file at `path`. -/
def temporary (path : String) : String :=
  withFileName path ((fileName? path).getD "" ++ ".tmp")

/-- A path followed by its parent, its parent's parent and so on; `fuel` bounds their number. -/
def ancestorsFrom : (fuel : Nat) → String → List String
  | 0, _ => []
  | fuel + 1, path =>
    path :: match parent? path with
      | some p => ancestorsFrom fuel p
      | none => []

/-- A path followed by its parent, its parent's parent and so on. -/
def ancestors (path : String) : List String :=
  ancestorsFrom ((components path.toList).length + 1) path

end Replica.Path
