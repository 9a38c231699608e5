/-
The history stack: applied messages in the order they were applied, kept in a
record log. Entries are written once and never changed or removed.
-/
import Std.Data.HashSet
import Replica.Queue
import Replica.History.Reader

namespace Replica

/-- The name of the history in errors. -/
def historyName : String := "history stack"

/-- The format of history logs. -/
def historyFormat : LogFormat := ⟨⟨0x43, 0x48, 0x53, 0x54⟩, historyName⟩

/-- The message a record of a history log holds. -/
def historyEntry (record : LogRecord) : Except StoreError Message :=
  match record.kind with
  | .push => Message.decode historyName record.payload
  | kind => .error (.corrupted historyName (.unexpectedKind kind record.offset))

/-- The messages of a history log, oldest first. -/
def replayHistory (records : List LogRecord) : Except StoreError (List Message) :=
  records.mapM historyEntry

/-- A history over a byte store. -/
structure History (σ : Type) where
  /-- The log; none once the history is closed. -/
  log : Option (Log σ)
  /-- Every message, most recent first. -/
  stack : List Message
  /-- The number of messages. -/
  depth : Nat
  /-- The identifiers of the messages. -/
  ids : Std.HashSet MessageId

namespace History

variable {σ τ ω α : Type}

/-- An action on a history and the world of its byte store. -/
abbrev Action (σ ω α : Type) := EStateM StoreError (History σ × ω) α

/-- A history with these messages, oldest first. -/
def ofEntries (log : Log σ) (entries : List Message) : History σ where
  log := some log
  stack := entries.reverse
  depth := entries.length
  ids := entries.foldl (fun ids message => ids.insert message.id) {}

/-- The same history in another view of its byte store. -/
def map (f : σ → τ) (history : History σ) : History τ :=
  { history with log := history.log.map (·.map f) }

/-- Whether the history has been closed. -/
def isClosed (history : History σ) : Bool := history.log.isNone

/-- The number of recorded messages. -/
def length (history : History σ) : Nat := history.depth

/-- A read-only view of an open history. -/
def reader (history : History σ) : Except StoreError HistoryReader :=
  if history.isClosed then .error (.closed historyName)
  else .ok {
    length := history.depth
    at? := fun offset => history.stack[offset]?
    contains := history.ids.contains
    recent := history.stack }

section
variable [ByteStore σ ω]

/-- Opens a history over a byte store as it is. -/
def attach (options : StoreOptions) : EStateM StoreError (σ × ω) (History σ) := do
  let records ← Log.recover historyFormat
  match replayHistory records with
  | .error e => throw e
  | .ok entries =>
    let (store, _) ← get
    return ofEntries ⟨store, historyFormat, options.syncOnWrite⟩ entries

/-- Appends the record of a message to the log. -/
def record (message : Message) : Action σ ω Unit := fun (history, world) =>
  match history.log with
  | none => .error (.closed historyName) (history, world)
  | some log =>
    match message.encode with
    | .error e => .error e (history, world)
    | .ok payload =>
      match Log.append .push payload (log, world) with
      | .ok _ (log', world') => .ok () ({ history with log := some log' }, world')
      | .error e (log', world') => .error e ({ history with log := some log' }, world')

/-- Records a message on top of the stack. -/
def push (message : Message) : Action σ ω Unit := do
  record message
  modify fun (history, world) =>
    ({ history with
        stack := message :: history.stack
        depth := history.depth + 1
        ids := history.ids.insert message.id }, world)

/-- Makes the log durable and closes the history; closing it again does nothing. -/
def close : Action σ ω Unit := fun (history, world) =>
  match history.log with
  | none => .ok () (history, world)
  | some log =>
    match Log.sync (log, world) with
    | .ok _ (_, world') => .ok () ({ history with log := none }, world')
    | .error e (_, world') => .error e ({ history with log := none }, world')

end

/-- Opens or makes the history file at `path`. -/
def openFile (path : String) (options : StoreOptions) :
    EStateM StoreError FileSystem (History OpenFile) := do
  let file ← (OpenFile.openWithDirectories path).adaptExcept .ofStorageOs
  fun disk =>
    match attach options (file, disk) with
    | .ok history (_, disk') => .ok history disk'
    | .error e (_, disk') => .error e disk'

end History

end Replica
