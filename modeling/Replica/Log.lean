/-
Record logs: an append-only sequence of framed records in a byte store.

Opening a log scans it and cuts a torn record off its end. An append that fails
cuts the log back to where it was, so a failed append leaves nothing in front
of later records; only if cutting back fails too does something stay.
-/
import Replica.ByteStore
import Replica.Log.Scan

namespace Replica

/-- An open log in a byte store. -/
structure Log (σ : Type) where
  store : σ
  format : LogFormat
  /-- Whether every append is made durable at once. -/
  syncOnWrite : Bool

namespace Log

variable {σ τ ω : Type}

/-- An action on a log and the world of its byte store. -/
abbrev Action (σ ω α : Type) := EStateM StoreError (Log σ × ω) α

/-- The byte store of a log. -/
def storePart : Part (Log σ × ω) (σ × ω) :=
  ⟨fun (log, world) => (log.store, world), fun (store, world) (log, _) => ({ log with store }, world)⟩

/-- Runs a call of the byte store. -/
def onStore {α : Type} (act : StoreAction σ ω α) : Action σ ω α := storePart.lift .storage act

/-- The same log in another view of its byte store. -/
def map (f : σ → τ) (log : Log σ) : Log τ := { log with store := f log.store }

variable [ByteStore σ ω]

/-- Reads every intact record of a store and cuts a torn one off. -/
def recover (format : LogFormat) : EStateM StoreError (σ × ω) (List LogRecord) := do
  let (store, world) ← get
  match ByteStore.readAll store world with
  | .error e => throw (.storage e)
  | .ok image =>
    match scan format image with
    | .error e => throw e
    | .ok found =>
      match found.tornTail with
      | some _ => (ByteStore.truncate found.validLength).adaptExcept .storage
      | none => pure ()
      return found.records

/-- Appends a frame and, if the log asks for it, makes it durable. -/
def write (syncOnWrite : Bool) (frame : Bytes) : StoreAction σ ω Nat := do
  let offset ← ByteStore.append frame
  if syncOnWrite then ByteStore.sync
  return offset

/-- Appends a record and returns its offset. -/
def append (kind : RecordKind) (payload : Bytes) : Action σ ω Nat := fun (log, world) =>
  match Frame.encode log.format.magic kind payload with
  | .error e => .error e (log, world)
  | .ok frame =>
    let before := ByteStore.size log.store world
    match onStore (write log.syncOnWrite frame) (log, world) with
    | .ok offset s => .ok offset s
    | .error e s =>
      match onStore (ByteStore.truncate before) s with
      | .ok _ s' => .error e s'
      | .error _ s' => .error e s'

/-- Drops every record. -/
def reset : Action σ ω Unit := onStore (ByteStore.truncate 0)

/-- Makes everything appended durable. -/
def sync : Action σ ω Unit := do
  onStore ByteStore.flush
  onStore ByteStore.sync

/-- The size of the log in bytes. -/
def size (log : Log σ) (world : ω) : Nat := ByteStore.size log.store world

end Log

end Replica
