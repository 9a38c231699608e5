/-
Checking every store file of a data directory.
-/
import Replica.Inspection.Source
import Replica.Text.Columns

namespace Replica

/-- What was found out about one file. -/
inductive FileStatus
  | missing
  /-- Every record is intact. -/
  | intact (records : Nat)
  /-- Intact but for a torn record at the end. -/
  | torn (records offset : Nat) (reason : TornReason)
  /-- The file cannot be trusted. -/
  | corrupt (text : String)
  deriving DecidableEq, Repr, Inhabited

/-- Whether the file cannot be trusted. -/
def FileStatus.isCorrupt : FileStatus → Bool
  | corrupt _ => true
  | _ => false

/-- What was found out about the store files, each with its name. -/
structure Verification where
  files : List (String × FileStatus)
  deriving DecidableEq, Repr, Inhabited

namespace Verification

/-- Whether no file is corrupt. -/
def isOk (v : Verification) : Bool := !v.files.any (·.2.isCorrupt)

/-- The status of a log that was scanned and replayed. -/
def logStatus {α : Type} : Except InspectionError (Option (Scan × α)) → FileStatus
  | .error e => .corrupt e.message
  | .ok none => .missing
  | .ok (some (found, _)) =>
    match found.tornTail with
    | some torn => .torn found.records.length torn.offset torn.reason
    | none => .intact found.records.length

/-- The status of a state file. -/
def stateStatus : Except InspectionError (Option Snapshot) → FileStatus
  | .error e => .corrupt e.message
  | .ok none => .missing
  | .ok (some _) => .intact 1

/-- Checks every store file at `path`. -/
def collect (disk : FileSystem) (path : String) : Except InspectionError Verification := do
  Inspection.requireStores disk path
  return ⟨[
    (DataDirectory.queueFile, logStatus (Inspection.readQueue disk path)),
    (DataDirectory.historyFile, logStatus (Inspection.readHistory disk path)),
    (DataDirectory.stateFile, stateStatus (Inspection.readState disk path))]⟩

/-- The line about one file. -/
def line (name : String) (status : FileStatus) : String :=
  let start := s!"  {Text.padRight 14 name} "
  match status with
  | .missing => start ++ "not found\n"
  | .intact records => start ++ s!"OK ({records} records)\n"
  | .torn records offset reason =>
    start ++ s!"OK ({records} records), torn tail at offset {offset}: {reason.text}\n"
  | .corrupt text => start ++ s!"CORRUPT: {text}\n"

/-- The lines before the files are looked at. -/
def heading (path : String) : String := s!"Verifying data directory at {path}\n\n"

/-- The lines about the files and the verdict. -/
def text (v : Verification) : String :=
  String.join (v.files.map fun (name, status) => line name status) ++ "\n"
    ++ (if v.isOk then "✓ Data directory verification passed\n"
      else "✗ Data directory verification FAILED\n")

end Verification

end Replica
