/-
Why the durable stores fail.

`Damage` lists what can be wrong with the bytes of a store; a store whose bytes
cannot be trusted fails with `StoreError.corrupted` or
`StoreError.checksumMismatch` and with nothing else (`isCorruption`).
-/
import Replica.Identity
import Replica.Log.Kind
import Replica.ByteStore.Error

namespace Replica

/-- What is wrong with the bytes of a store. -/
inductive Damage
  | invalidMagic (offset : Nat)
  | unsupportedVersion (version offset : Nat)
  | unknownKind (byte offset : Nat)
  | messageTooShort
  /-- A message declares another payload length than its record holds. -/
  | messageLength (id : MessageId) (declared held : Nat)
  | malformedDequeue (offset : Nat)
  /-- A dequeue record names another message than the head. -/
  | wrongDequeue (id : MessageId) (offset : Nat) (head : MessageId)
  | dequeueOnEmpty (id : MessageId) (offset : Nat)
  /-- A push record in a queue log. -/
  | historyRecord (offset : Nat)
  /-- A queue record in a history log. -/
  | unexpectedKind (kind : RecordKind) (offset : Nat)
  | snapshotLength (expected found : Nat)
  | snapshotMagic
  | snapshotVersion (version : Nat)
  | other (text : String)
  deriving DecidableEq, Repr, Inhabited

/-- What is said about the damage. -/
def Damage.message : Damage → String
  | invalidMagic offset => s!"invalid magic at offset {offset}"
  | unsupportedVersion version offset => s!"unsupported version {version} at offset {offset}"
  | unknownKind byte offset => s!"unknown record kind {byte} at offset {offset}"
  | messageTooShort => "message record too short"
  | messageLength id declared held =>
    s!"message {id.value.toNat} declares {declared} payload bytes, record holds {held}"
  | malformedDequeue offset => s!"malformed dequeue record at offset {offset}"
  | wrongDequeue id offset head =>
    s!"dequeue of {id.text} at offset {offset} but head is {head.text}"
  | dequeueOnEmpty id offset => s!"dequeue of {id.text} at offset {offset} on empty queue"
  | historyRecord offset => s!"history record at offset {offset}"
  | unexpectedKind kind offset => s!"unexpected {kind.name} record at offset {offset}"
  | snapshotLength expected found => s!"expected {expected} bytes, found {found}"
  | snapshotMagic => "invalid magic"
  | snapshotVersion version => s!"unsupported version {version}"
  | other text => text

/-- The failures of the durable stores. -/
inductive StoreError
  /-- The byte store below failed. -/
  | storage (cause : StorageError)
  /-- A directory or a whole file could not be handled. -/
  | io (cause : IoError)
  /-- The bytes of the named store cannot be trusted. -/
  | corrupted (store : String) (damage : Damage)
  /-- A checksum does not match the bytes it covers. -/
  | checksumMismatch (offset : Nat) (expected actual : UInt32)
  /-- The named store has been closed. -/
  | closed (store : String)
  /-- Somebody else holds the lock of the data directory. -/
  | directoryLocked (path : String)
  /-- The data directory is missing or no directory. -/
  | invalidDirectory (text : String)
  /-- A payload does not fit its length field. -/
  | messageTooLarge (len max : Nat)
  deriving DecidableEq, Repr, Inhabited

namespace StoreError

/-- What is said about the failure. -/
def message : StoreError → String
  | storage cause => s!"storage error: {cause.message}"
  | io cause => s!"I/O error: {cause.message}"
  | corrupted store damage => s!"{store} corrupted: {damage.message}"
  | checksumMismatch offset expected actual =>
    s!"checksum mismatch at offset {offset}: expected {hexNumber 8 expected.toNat}, "
      ++ s!"got {hexNumber 8 actual.toNat}"
  | closed store => s!"{store} is closed"
  | directoryLocked path => s!"data directory locked by another process: {path}"
  | invalidDirectory text => s!"invalid data directory: {text}"
  | messageTooLarge len max => s!"message payload of {len} bytes exceeds the {max} byte limit"

/-- Whether the failure means that the stored bytes cannot be trusted. -/
def isCorruption : StoreError → Bool
  | corrupted .. | checksumMismatch .. => true
  | _ => false

/-- The failure behind the failure. -/
def cause? : StoreError → Option String
  | storage cause => some cause.message
  | io cause => some cause.message
  | _ => none

/-- The failure as a structured value in text form. -/
def debug : StoreError → String
  | storage cause => s!"Storage({cause.debug})"
  | io cause => s!"Io({cause.debug})"
  | corrupted store damage =>
    s!"Corrupted \x7b store: {Text.quoted store}, message: {Text.quoted damage.message} \x7d"
  | checksumMismatch offset expected actual =>
    s!"ChecksumMismatch \x7b offset: {offset}, expected: {expected.toNat}, "
      ++ s!"actual: {actual.toNat} \x7d"
  | closed store => s!"StoreClosed \x7b store: {Text.quoted store} \x7d"
  | directoryLocked path => s!"DirectoryLocked \x7b path: {Text.quoted path} \x7d"
  | invalidDirectory text => s!"InvalidDirectory \x7b message: {Text.quoted text} \x7d"
  | messageTooLarge len max => s!"MessageTooLarge \x7b len: {len}, max: {max} \x7d"

/-- A refusal of the file system outside a byte store. -/
def ofOs (error : OsError) : StoreError := io (.os error)

/-- A refusal of the file system inside a byte store. -/
def ofStorageOs (error : OsError) : StoreError := storage (.io (.os error))

end StoreError

end Replica
