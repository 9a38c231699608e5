/-
What a byte store keeps to.

A contract names the bytes a store holds, and they are exactly those that were
appended and not cut off again: a call that fails may leave leading bytes of an
append behind and nothing else. What is proved of logs and queues is proved of
every store with a contract.
-/
import Replica.ByteStore.Memory

namespace Replica

/-- **What a byte store keeps to**, in terms of the bytes it holds. -/
structure ByteStore.Contract (σ ω : Type) [ByteStore σ ω] where
  /-- The store is as its calls left it and holds these bytes. -/
  Holds : σ → ω → Bytes → Prop
  readAll {store : σ} {world : ω} {image : Bytes} (h : Holds store world image) :
    ByteStore.readAll store world = .ok image
  size {store : σ} {world : ω} {image : Bytes} (h : Holds store world image) :
    ByteStore.size store world = image.length
  append_ok {store store' : σ} {world world' : ω} {image data : Bytes} {offset : Nat}
    (h : Holds store world image)
    (hrun : ByteStore.append data (store, world) = .ok offset (store', world')) :
    offset = image.length ∧ Holds store' world' (image ++ data)
  append_error {store store' : σ} {world world' : ω} {image data : Bytes} {e : StorageError}
    (h : Holds store world image)
    (hrun : ByteStore.append data (store, world) = .error e (store', world')) :
    ∃ n, Holds store' world' (image ++ data.take n)
  sync_ok {store store' : σ} {world world' : ω} {image : Bytes} {a : Unit}
    (h : Holds store world image) (hrun : ByteStore.sync (store, world) = .ok a (store', world')) :
    Holds store' world' image
  sync_error {store store' : σ} {world world' : ω} {image : Bytes} {e : StorageError}
    (h : Holds store world image)
    (hrun : ByteStore.sync (store, world) = .error e (store', world')) :
    Holds store' world' image
  truncate_ok {store store' : σ} {world world' : ω} {image : Bytes} {n : Nat} {a : Unit}
    (h : Holds store world image)
    (hrun : ByteStore.truncate n (store, world) = .ok a (store', world')) :
    Holds store' world' (image.take n)
  truncate_error {store store' : σ} {world world' : ω} {image : Bytes} {n : Nat} {e : StorageError}
    (h : Holds store world image)
    (hrun : ByteStore.truncate n (store, world) = .error e (store', world')) :
    Holds store' world' image

/-! ## Bytes in memory -/

namespace MemoryStore

theorem readAll_eq (store : MemoryStore) (world : Unit) :
    ByteStore.readAll store world = .ok store.bytes := by
  show store.readAt 0 store.bytes.length = _
  simp [readAt, ByteStore.checkRange]

/-- A store in memory keeps to it whatever its plan lets fail. -/
def contract : ByteStore.Contract MemoryStore Unit where
  Holds store _ image := store.bytes = image
  readAll := by
    rintro store world _ rfl
    exact readAll_eq store world
  size := by
    rintro store world _ rfl
    rfl
  append_ok := by
    rintro store store' world world' _ data offset rfl hrun
    change append data (store, world) = _ at hrun
    unfold append at hrun
    dsimp only at hrun
    split at hrun
    · cases hrun
    · cases hrun
      exact ⟨rfl, rfl⟩
  append_error := by
    rintro store store' world world' _ data e rfl hrun
    change append data (store, world) = _ at hrun
    unfold append at hrun
    dsimp only at hrun
    split at hrun
    · rename_i written _
      cases hrun
      exact ⟨written, rfl⟩
    · cases hrun
  sync_ok := by
    rintro store store' world world' _ a rfl hrun
    change sync (store, world) = _ at hrun
    unfold sync at hrun
    dsimp only at hrun
    split at hrun
    · cases hrun
    · cases hrun
      rfl
  sync_error := by
    rintro store store' world world' _ e rfl hrun
    change sync (store, world) = _ at hrun
    unfold sync at hrun
    dsimp only at hrun
    split at hrun
    · cases hrun
      rfl
    · cases hrun
  truncate_ok := by
    rintro store store' world world' _ n a rfl hrun
    change truncate n (store, world) = _ at hrun
    unfold truncate at hrun
    dsimp only at hrun
    split at hrun
    · cases hrun
    split at hrun
    · cases hrun
    · cases hrun
      rfl
  truncate_error := by
    rintro store store' world world' _ n e rfl hrun
    change truncate n (store, world) = _ at hrun
    unfold truncate at hrun
    dsimp only at hrun
    split at hrun
    · cases hrun
      rfl
    split at hrun
    · cases hrun
      rfl
    · cases hrun

end MemoryStore

end Replica
