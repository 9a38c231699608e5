/-
Why a call to a byte store fails.
-/
import Replica.Disk.Fault
import Replica.Text.Quoted

namespace Replica

/-- The failures of byte stores. -/
inductive StorageError
  /-- A file could not be read or written. -/
  | io (cause : IoError)
  /-- The range asked for reaches behind the end. -/
  | readPastEnd (offset len size : Nat)
  /-- Truncation would have made the store longer. -/
  | truncateBeyondEnd (requested size : Nat)
  /-- The store is unusable as a whole. -/
  | corrupted (text : String)
  deriving DecidableEq, Repr, Inhabited

namespace StorageError

/-- What is said about the failure. -/
def message : StorageError → String
  | io cause => s!"I/O error: {cause.message}"
  | readPastEnd offset len size =>
    s!"read beyond end of storage: offset {offset}, len {len}, size {size}"
  | truncateBeyondEnd requested size =>
    s!"cannot truncate to {requested} bytes, store holds {size}"
  | corrupted text => s!"storage corrupted: {text}"

/-- The failure behind the failure. -/
def cause? : StorageError → Option String
  | io cause => some cause.message
  | _ => none

end StorageError

/-- The failure as a structured value in text form. -/
def IoError.debug : IoError → String
  | os error =>
    match error.code? with
    | some code =>
      s!"Os \x7b code: {code}, kind: {error.kind}, message: {Text.quoted error.text} \x7d"
    | none => s!"Error \x7b kind: {error.kind}, message: {Text.quoted error.text} \x7d"
  | shortRead =>
    s!"Error \x7b kind: UnexpectedEof, message: {Text.quoted shortRead.message} \x7d"
  | readOnly path =>
    s!"Custom \x7b kind: PermissionDenied, error: {Text.quoted (readOnly path).message} \x7d"
  | other text => s!"Custom \x7b kind: Other, error: {Text.quoted text} \x7d"

/-- The failure as a structured value in text form. -/
def StorageError.debug : StorageError → String
  | io cause => s!"Io({cause.debug})"
  | readPastEnd offset len size =>
    s!"ReadPastEnd \x7b offset: {offset}, len: {len}, size: {size} \x7d"
  | truncateBeyondEnd requested size =>
    s!"TruncateBeyondEnd \x7b requested: {requested}, size: {size} \x7d"
  | corrupted text => s!"Corrupted({Text.quoted text})"

end Replica
