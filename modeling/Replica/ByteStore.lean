/-
Byte stores: what the record logs are kept in.

A byte store of type `σ` lives in a world of type `ω`: bytes in memory need no
world, an open file needs the file system it belongs to. A store reads ranges,
appends, cuts its end off, and makes what it holds durable. It never looks at
the bytes it keeps.
-/
import Replica.Focus
import Replica.Bytes
import Replica.ByteStore.Error

namespace Replica

/-- An action on a byte store and its world. -/
abbrev StoreAction (σ ω α : Type) := EStateM StorageError (σ × ω) α

/-- What a byte store can do. -/
class ByteStore (σ : Type) (ω : outParam Type) where
  /-- The number of bytes the store holds, which is where the next append goes. -/
  size : σ → ω → Nat
  /-- `len` bytes from `offset` on. -/
  readAt : σ → ω → (offset len : Nat) → Except StorageError Bytes
  /-- Writes at the end and returns the offset written at. -/
  append : Bytes → StoreAction σ ω Nat
  /-- Hands buffered bytes on. -/
  flush : StoreAction σ ω Unit
  /-- Makes everything appended durable. -/
  sync : StoreAction σ ω Unit
  /-- Drops everything behind `size`. -/
  truncate : (size : Nat) → StoreAction σ ω Unit

/-- All bytes of a store. -/
def ByteStore.readAll {σ ω : Type} [ByteStore σ ω] (store : σ) (world : ω) :
    Except StorageError Bytes :=
  readAt store world 0 (size store world)

/-- The range check shared by all stores: offset and end lie within `size`. -/
def ByteStore.checkRange (offset len size : Nat) : Except StorageError Unit :=
  if size < offset ∨ size < offset + len then .error (.readPastEnd offset len size) else .ok ()

end Replica
