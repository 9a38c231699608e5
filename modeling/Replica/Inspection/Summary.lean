/-
The summary of a data directory: file sizes, counts, the digest, and the torn
records a coordinator would cut off.
-/
import Replica.Inspection.Source
import Replica.Text.Columns
import Replica.Text.Document

namespace Replica

/-- The summary of a data directory. -/
structure Summary where
  path : String
  queueSize : Nat
  historySize : Nat
  stateSize : Nat
  /-- The number of messages awaiting delivery. -/
  pending : Nat
  /-- The number of messages in the history. -/
  history : Nat
  /-- What the state file holds, if there is one. -/
  snapshot : Option Snapshot
  /-- Torn records, each with its file. -/
  tornTails : List (String × TornTail)
  deriving DecidableEq, Repr, Inhabited

namespace Summary

/-- The size of the three store files together. -/
def totalSize (s : Summary) : Nat := s.queueSize + s.historySize + s.stateSize

/-- The torn record of a scanned file. -/
def tornIn (file : String) (tail : Option TornTail) : List (String × TornTail) :=
  match tail with
  | some torn => [(file, torn)]
  | none => []

/-- What is said about a torn record. -/
def tornText (file : String) (torn : TornTail) : String :=
  s!"{file} at offset {torn.offset}: {torn.reason.text}"

/-- Sums up the data directory at `path`. -/
def collect (disk : FileSystem) (path : String) : Except InspectionError Summary := do
  Inspection.requireStores disk path
  let queue ← Inspection.readQueue disk path
  let history ← Inspection.readHistory disk path
  let snapshot ← Inspection.readState disk path
  return {
    path
    queueSize := Inspection.fileSize disk (DataDirectory.queuePath path)
    historySize := Inspection.fileSize disk (DataDirectory.historyPath path)
    stateSize := Inspection.fileSize disk (DataDirectory.statePath path)
    pending := match queue with
      | some (_, replay) => replay.pending.length
      | none => 0
    history := match history with
      | some (_, entries) => entries.length
      | none => 0
    snapshot
    tornTails :=
      tornIn DataDirectory.queueFile (queue.bind (·.1.tornTail))
        ++ tornIn DataDirectory.historyFile (history.bind (·.1.tornTail)) }

/-- A line of the table of file sizes. -/
def sizeLine (name : String) (size : Nat) : String :=
  s!"  {Text.padRight 14 name} {size} bytes\n"

/-- The lines about the state file. -/
def snapshotText : Option Snapshot → String
  | some snapshot =>
    s!"  Digest:           {snapshot.digest.text}\n"
      ++ s!"  Applied:          {snapshot.applied.toNat}\n"
  | none => "  Digest:           (no state file)\n"

/-- The lines about torn records. -/
def tornTailsText (tails : List (String × TornTail)) : String :=
  if tails = [] then ""
  else "\nTorn tails (truncated on next open):\n"
    ++ String.join (tails.map fun (file, torn) => s!"  {tornText file torn}\n")

/-- The summary as text. -/
def text (s : Summary) : String :=
  s!"Concordia Data Directory: {s.path}\n\nFiles:\n"
    ++ sizeLine DataDirectory.queueFile s.queueSize
    ++ sizeLine DataDirectory.historyFile s.historySize
    ++ sizeLine DataDirectory.stateFile s.stateSize
    ++ sizeLine "total" s.totalSize
    ++ s!"\nStores:\n  Pending messages: {s.pending}\n  History entries:  {s.history}\n"
    ++ snapshotText s.snapshot
    ++ tornTailsText s.tornTails

/-- The summary as a document. -/
def document (s : Summary) : Text.Document :=
  .record ([
    ("path", .text s.path),
    ("queue_size", .number s.queueSize),
    ("history_size", .number s.historySize),
    ("state_size", .number s.stateSize),
    ("total_size", .number s.totalSize),
    ("pending", .number s.pending),
    ("history", .number s.history)]
    ++ (match s.snapshot with
      | some snapshot => [
          ("digest", .text snapshot.digest.text),
          ("applied", .number snapshot.applied.toNat)]
      | none => [])
    ++ [("torn_tails", .list (s.tornTails.map fun (file, torn) => .text (tornText file torn)))])

end Summary

end Replica
