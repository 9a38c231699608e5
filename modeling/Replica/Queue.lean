/-
The pending-sync queue: messages awaiting delivery to peers, first in first
out, kept in a record log.

Every change is appended to the log before it is made in memory, so the log
always replays to the pending messages. A queue that runs empty drops its log;
opening a queue file drops or compacts a log that holds too many messages
already given out.
-/
import Replica.Log
import Replica.ByteStore.OpenFile
import Replica.Disk.Replacement
import Replica.Queue.Replay

namespace Replica

/-- Options shared by the durable stores. -/
structure StoreOptions where
  /-- Whether every append is made durable at once. -/
  syncOnWrite : Bool := true
  /-- How many messages already given out a queue log may hold when it is opened. -/
  compactThreshold : Nat := 1024
  deriving DecidableEq, Repr, Inhabited

/-- A queue over a byte store. -/
structure Queue (σ : Type) where
  path : Option String
  /-- The log; none once the queue is closed. -/
  log : Option (Log σ)
  /-- Messages still pending, oldest first. -/
  pending : List Message

namespace Queue

variable {σ τ ω α : Type}

/-- An action on a queue and the world of its byte store. -/
abbrev Action (σ ω α : Type) := EStateM StoreError (Queue σ × ω) α

/-- The same queue in another view of its byte store. -/
def map (f : σ → τ) (queue : Queue σ) : Queue τ :=
  { queue with log := queue.log.map (·.map f) }

/-- Whether the queue has been closed. -/
def isClosed (queue : Queue σ) : Bool := queue.log.isNone

/-- The number of pending messages. -/
def length (queue : Queue σ) : Nat := queue.pending.length

/-- Runs an action on the log; a closed queue has none. -/
def withLog (act : Log.Action σ ω α) : Action σ ω α := fun (queue, world) =>
  match queue.log with
  | none => .error (.closed queueName) (queue, world)
  | some log =>
    match act (log, world) with
    | .ok a (log', world') => .ok a ({ queue with log := some log' }, world')
    | .error e (log', world') => .error e ({ queue with log := some log' }, world')

/-- The message at the head. -/
def peek (queue : Queue σ) : Except StoreError (Option Message) :=
  if queue.isClosed then .error (.closed queueName) else .ok queue.pending.head?

/-- Up to `limit` pending messages, oldest first. -/
def snapshot (queue : Queue σ) (limit : Nat) : Except StoreError (List Message) :=
  if queue.isClosed then .error (.closed queueName) else .ok (queue.pending.take limit)

section
variable [ByteStore σ ω]

/-- Opens a queue over a byte store as it is. -/
def attach (options : StoreOptions) : EStateM StoreError (σ × ω) (Queue σ) := do
  let records ← Log.recover queueFormat
  match replayQueue records with
  | .error e => throw e
  | .ok replay =>
    let (store, _) ← get
    return ⟨none, some ⟨store, queueFormat, options.syncOnWrite⟩, replay.pending.toList⟩

/-- Appends a message at the tail. -/
def enqueue (message : Message) : Action σ ω Unit := do
  withLog do
    match message.encode with
    | .error e => throw e
    | .ok payload => let _ ← Log.append .enqueue payload
  modify fun (queue, world) => ({ queue with pending := queue.pending ++ [message] }, world)

/-- Drops the log of a queue that ran empty; the log stays if that fails. -/
def resetDrained : Action σ ω Unit := fun (queue, world) =>
  if queue.pending = [] then
    match withLog Log.reset (queue, world) with
    | .ok _ s => .ok () s
    | .error _ s => .ok () s
  else .ok () (queue, world)

/-- Takes the message at the head; none if nothing is pending. -/
def dequeue : Action σ ω (Option Message) := do
  let (queue, _) ← get
  if queue.isClosed then throw (.closed queueName)
  match queue.pending with
  | [] => return none
  | head :: rest =>
    withLog do let _ ← Log.append .dequeue (QueueReplay.dequeuePayload head.id)
    modify fun (queue, world) => ({ queue with pending := rest }, world)
    resetDrained
    return some head

/-- Makes the log durable and closes the queue; closing it again does nothing. -/
def close : Action σ ω Unit := fun (queue, world) =>
  match queue.log with
  | none => .ok () (queue, world)
  | some log =>
    match Log.sync (log, world) with
    | .ok _ (_, world') => .ok () ({ queue with log := none }, world')
    | .error e (_, world') => .error e ({ queue with log := none }, world')

end

/-! ## Queue files -/

/-- The frame of the record that adds a message. -/
def enqueueFrame (message : Message) : Except StoreError Bytes :=
  match message.encode with
  | .error e => .error e
  | .ok payload => Frame.encode queueFormat.magic .enqueue payload

/-- The image of a log that holds just these messages. -/
def compactImage (messages : List Message) : Except StoreError Bytes :=
  (messages.mapM enqueueFrame).map List.flatten

/-- Runs a call of the file system that belongs to the byte store of a queue file. -/
def onDisk (act : DiskAction α) : EStateM StoreError FileSystem α :=
  act.adaptExcept .ofStorageOs

/-- Recovers the log in a file just opened. -/
def recoverFile (options : StoreOptions) (file : OpenFile) :
    EStateM StoreError FileSystem (Log OpenFile × List LogRecord) := fun disk =>
  match Log.recover queueFormat (file, disk) with
  | .ok records (file', disk') => .ok (⟨file', queueFormat, options.syncOnWrite⟩, records) disk'
  | .error e (_, disk') => .error e disk'

/-- Replaces a queue file by one with the pending messages only, where one call of the replacement may
fail on its own, and opens it again. -/
def compactWith (mishap : Option Replacement.Mishap) (path : String) (pending : List Message)
    (options : StoreOptions) : EStateM StoreError FileSystem (Log OpenFile) := do
  match compactImage pending with
  | .error e => throw e
  | .ok image =>
    onDisk (FileSystem.replaceWith mishap path image)
    let file ← onDisk (OpenFile.open path)
    let (log, _) ← recoverFile options file
    return log

/-- Drops the log if nothing in it is pending any more, compacts it if it holds too much that was
given out, and leaves it alone otherwise. One call of compacting may fail on its own. -/
def maintainWith (mishap : Option Replacement.Mishap) (path : String) (options : StoreOptions)
    (replay : QueueReplay) (log : Log OpenFile) : EStateM StoreError FileSystem (Log OpenFile) :=
  if replay.pending.length = 0 ∧ 0 < replay.consumed then fun disk =>
    match Log.reset (log, disk) with
    | .ok _ (log', disk') => .ok log' disk'
    | .error e (_, disk') => .error e disk'
  else if options.compactThreshold < replay.consumed then
    compactWith mishap path replay.pending.toList options
  else pure log

/-- Opens or makes the queue file at `path`, where one call of compacting may fail on its own. -/
def openFileWith (mishap : Option Replacement.Mishap) (path : String) (options : StoreOptions) :
    EStateM StoreError FileSystem (Queue OpenFile) := do
  let _ ← onDisk (FileSystem.removeStale path)
  let file ← onDisk (OpenFile.openWithDirectories path)
  let (log, records) ← recoverFile options file
  match replayQueue records with
  | .error e => throw e
  | .ok replay =>
    let log ← maintainWith mishap path options replay log
    return ⟨some path, some log, replay.pending.toList⟩

/-- Opens or makes the queue file at `path`. -/
def openFile (path : String) (options : StoreOptions) :
    EStateM StoreError FileSystem (Queue OpenFile) :=
  openFileWith none path options

end Queue

end Replica
