/-
Bytes in memory, behind a plan of faults.

The plan counts the calls of each kind from one and says which of them fail. A
failing append may leave some leading bytes of its data behind; any other
failing call changes nothing. Without faults the store is a plain byte string.
-/
import Replica.ByteStore

namespace Replica

/-- Which calls fail, by their number among the calls of their kind. -/
structure FaultPlan where
  /-- For an append that fails, the number of bytes it writes before it does. -/
  append : Nat → Option Nat := fun _ => none
  flush : Nat → Bool := fun _ => false
  sync : Nat → Bool := fun _ => false
  truncate : Nat → Bool := fun _ => false
  deriving Inhabited

/-- No call fails. -/
def FaultPlan.none : FaultPlan := {}

/-- How many calls of each kind there have been. -/
structure CallCounts where
  append : Nat := 0
  flush : Nat := 0
  sync : Nat := 0
  truncate : Nat := 0
  deriving DecidableEq, Repr, Inhabited

/-- A byte store in memory. -/
structure MemoryStore where
  bytes : Bytes := []
  plan : FaultPlan := .none
  counts : CallCounts := {}
  deriving Inhabited

namespace MemoryStore

/-- A store that holds these bytes and never fails. -/
def ofBytes (bytes : Bytes) : MemoryStore := { bytes }

/-- The failure of a call that the plan lets fail. -/
def injected (call : String) (n : Nat) : StorageError :=
  .corrupted s!"injected {call} failure {n}"

/-- `len` bytes from `offset` on. -/
def readAt (store : MemoryStore) (offset len : Nat) : Except StorageError Bytes :=
  match ByteStore.checkRange offset len store.bytes.length with
  | .error e => .error e
  | .ok () => .ok ((store.bytes.drop offset).take len)

/-- Writes at the end, as far as the plan lets it. -/
def append (data : Bytes) : StoreAction MemoryStore Unit Nat := fun (store, world) =>
  let n := store.counts.append + 1
  let counted := { store with counts := { store.counts with append := n } }
  match store.plan.append n with
  | some written =>
    .error (injected "append" n) ({ counted with bytes := store.bytes ++ data.take written }, world)
  | none => .ok store.bytes.length ({ counted with bytes := store.bytes ++ data }, world)

/-- Counts a flush. -/
def flush : StoreAction MemoryStore Unit Unit := fun (store, world) =>
  let n := store.counts.flush + 1
  let counted := { store with counts := { store.counts with flush := n } }
  if store.plan.flush n then .error (injected "flush" n) (counted, world)
  else .ok () (counted, world)

/-- Counts a sync. -/
def sync : StoreAction MemoryStore Unit Unit := fun (store, world) =>
  let n := store.counts.sync + 1
  let counted := { store with counts := { store.counts with sync := n } }
  if store.plan.sync n then .error (injected "sync" n) (counted, world)
  else .ok () (counted, world)

/-- Cuts the end off, unless the plan or the size forbids it. -/
def truncate (size : Nat) : StoreAction MemoryStore Unit Unit := fun (store, world) =>
  let n := store.counts.truncate + 1
  let counted := { store with counts := { store.counts with truncate := n } }
  if store.plan.truncate n then .error (injected "truncate" n) (counted, world)
  else if store.bytes.length < size then
    .error (.truncateBeyondEnd size store.bytes.length) (counted, world)
  else .ok () ({ counted with bytes := store.bytes.take size }, world)

end MemoryStore

instance : ByteStore MemoryStore Unit where
  size store _ := store.bytes.length
  readAt store _ := store.readAt
  append := MemoryStore.append
  flush := MemoryStore.flush
  sync := MemoryStore.sync
  truncate := MemoryStore.truncate

end Replica
