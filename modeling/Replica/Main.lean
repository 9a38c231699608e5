/-
The command line program: it reads the store files of the data directory named
in its arguments, runs the command on them and prints what comes of it. Nothing
is written.
-/
import Replica.CommandLine

namespace Replica.CommandLine

/-- The path the arguments name. -/
def pathOf? (args : List String) : Option String :=
  match read args with
  | .ok invocation => invocation.path
  | .error _ => none

/-- Adds the file in a directory with this name to a file system, as it is on the disk. -/
def loadFile (directory : String) (disk : FileSystem) (name : String) : IO FileSystem := do
  let path := Path.join directory name
  try
    let data ← IO.FS.readBinFile path
    return match FileSystem.writeAll path data.toList disk with
      | .ok _ disk => disk
      | .error _ disk => disk
  catch
    | .noFileOrDirectory .. => return disk
    | _ => return match FileSystem.makeDirectory path disk with
      | .ok _ disk => disk
      | .error _ disk => disk

/-- The store files of the data directory at a path. -/
def loadDirectory (path : String) : IO FileSystem := do
  let names := [DataDirectory.queueFile, DataDirectory.historyFile, DataDirectory.stateFile]
  match FileSystem.makeDirectories path {} with
  | .ok _ disk | .error _ disk => names.foldlM (loadFile path) disk

/-- Runs the command line on the disk and prints what comes of it. -/
def runOnDisk (args : List String) : IO UInt32 := do
  let disk ← match pathOf? args with
    | some path => loadDirectory path
    | none => pure {}
  let result := run disk args
  IO.print result.output
  match result.error with
  | some error => IO.eprintln s!"Error: {error}"
  | none => if result.exit ≠ 0 then IO.eprintln "error: unexpected arguments; try --help"
  return UInt32.ofNat result.exit

end Replica.CommandLine

/-- The program. -/
def main (args : List String) : IO UInt32 := Replica.CommandLine.runOnDisk args
