/-
Bytes in memory that are watched.

A watched store is a store in memory, and its world is a list of images: every
call adds the bytes it leaves, the latest last. A run therefore tells every
image that ever stood in the store, those in the middle of a call of a queue
included. Without faults one record adds images with its whole frame only, and
dropping the log adds the empty one.
-/
import Replica.Proofs.Log.Memory

namespace Replica

/-- Bytes in memory whose every image goes to the world. -/
structure WatchedStore where
  memory : MemoryStore

namespace WatchedStore

/-- Makes a call of the store in memory and adds the image it leaves. -/
def watch {α : Type} (act : StoreAction MemoryStore Unit α) :
    StoreAction WatchedStore (List Bytes) α := fun (store, images) =>
  match act (store.memory, ()) with
  | .ok a (memory, _) => .ok a (⟨memory⟩, images ++ [memory.bytes])
  | .error e (memory, _) => .error e (⟨memory⟩, images ++ [memory.bytes])

instance : ByteStore WatchedStore (List Bytes) where
  size store _ := ByteStore.size store.memory ()
  readAt store _ := ByteStore.readAt store.memory ()
  append data := watch (ByteStore.append data)
  flush := watch ByteStore.flush
  sync := watch ByteStore.sync
  truncate size := watch (ByteStore.truncate size)

/-- A store without bytes on which no call fails. -/
def empty : WatchedStore := ⟨.ofBytes []⟩

variable {store : WatchedStore} {bytes : Bytes} {images : List Bytes}

theorem watch_ok {α : Type} {act : StoreAction MemoryStore Unit α} {a : α} {memory : MemoryStore}
    (h : act (store.memory, ()) = .ok a (memory, ())) (images : List Bytes) :
    watch act (store, images) = .ok a (⟨memory⟩, images ++ [memory.bytes]) := by
  rw [watch, h]

/-! ## Calls that do not fail -/

/-- The store holds these bytes and none of its calls fails. -/
def Keeps (store : WatchedStore) (bytes : Bytes) : Prop :=
  (MemoryStore.contractUnder .none).Holds store.memory () bytes

theorem keeps_empty : empty.Keeps [] := ⟨rfl, rfl⟩

theorem readAll_eq (h : store.Keeps bytes) : ByteStore.readAll store images = .ok bytes := by
  obtain ⟨rfl, -⟩ := h
  exact MemoryStore.readAll_eq store.memory ()

theorem append_eq (h : store.Keeps bytes) (data : Bytes) :
    ∃ store', ByteStore.append data (store, images) =
        .ok bytes.length (store', images ++ [bytes ++ data]) ∧
      store'.Keeps (bytes ++ data) := by
  obtain ⟨rfl, hplan⟩ := h
  have hnone : store.memory.plan.append (store.memory.counts.append + 1) = none := by
    rw [hplan]
    rfl
  exact ⟨_, watch_ok (MemoryStore.append_of_none hnone data ()) images, rfl, hplan⟩

theorem sync_eq (h : store.Keeps bytes) :
    ∃ store', ByteStore.sync (store, images) = .ok () (store', images ++ [bytes]) ∧
      store'.Keeps bytes := by
  obtain ⟨rfl, hplan⟩ := h
  have hnone : store.memory.plan.sync (store.memory.counts.sync + 1) = false := by
    rw [hplan]
    rfl
  have hsync := MemoryStore.sync_eq store.memory ()
  rw [hnone, if_neg Bool.false_ne_true] at hsync
  exact ⟨_, watch_ok hsync images, rfl, hplan⟩

theorem truncate_zero_eq (h : store.Keeps bytes) :
    ∃ store', ByteStore.truncate 0 (store, images) = .ok () (store', images ++ [[]]) ∧
      store'.Keeps [] := by
  have hnone : store.memory.plan.truncate (store.memory.counts.truncate + 1) = false := by
    rw [h.2]
    rfl
  obtain ⟨⟨memory, ⟨⟩⟩, hcut⟩ := (@MemoryStore.truncate_ok_iff _ () _).2
    ⟨hnone, Nat.zero_le store.memory.bytes.length⟩
  have hkept := (MemoryStore.contractUnder .none).truncate_ok h hcut
  rw [List.take_zero] at hkept
  obtain ⟨hbytes, -⟩ := id hkept
  change memory.bytes = [] at hbytes
  refine ⟨⟨memory⟩, ?_, hkept⟩
  rw [← hbytes]
  exact watch_ok hcut images

/-- A frame is written at the end, and every image on the way has all of it. -/
theorem write_eq (h : store.Keeps bytes) (syncOnWrite : Bool) (frame : Bytes) :
    ∃ store' news, Log.write syncOnWrite frame (store, images) =
        .ok bytes.length (store', images ++ news) ∧
      store'.Keeps (bytes ++ frame) ∧ ∀ image ∈ news, image = bytes ++ frame := by
  obtain ⟨store₁, happend, hkept⟩ := @append_eq store bytes images h frame
  rw [Log.write_eq, happend]
  cases syncOnWrite with
  | false => exact ⟨store₁, [bytes ++ frame], rfl, hkept, by simp⟩
  | true =>
    obtain ⟨store₂, hsync, hkept'⟩ := @sync_eq store₁ _ (images ++ [bytes ++ frame]) hkept
    dsimp only
    rw [if_pos rfl, hsync]
    exact ⟨store₂, [bytes ++ frame, bytes ++ frame], by simp, hkept', by simp⟩

end WatchedStore

/-! ## Logs -/

namespace Log

variable {log : Log WatchedStore} {bytes : Bytes} {images : List Bytes}

/-- **A record is appended** whole: no image on the way has a part of its frame. -/
theorem append_watched (h : log.store.Keeps bytes) (kind : RecordKind) {payload : Bytes}
    (hfits : payload.length ≤ Frame.maxPayload) :
    ∃ store news, append kind payload (log, images) =
        .ok bytes.length ({ log with store }, images ++ news) ∧
      store.Keeps (bytes ++ Frame.toBytes log.format.magic kind payload) ∧
      ∀ image ∈ news, image = bytes ++ Frame.toBytes log.format.magic kind payload := by
  obtain ⟨store, news, hwrite, hkept, hnews⟩ := @WatchedStore.write_eq _ _ images h
    log.syncOnWrite (Frame.toBytes log.format.magic kind payload)
  refine ⟨store, news, ?_, hkept, hnews⟩
  rw [append_eq, Frame.encode_eq_ok_iff.2 ⟨hfits, rfl⟩]
  simp only [onStore_eq, hwrite]

theorem reset_watched (h : log.store.Keeps bytes) :
    ∃ store, reset (log, images) = .ok () ({ log with store }, images ++ [[]]) ∧ store.Keeps [] := by
  obtain ⟨store, hcut, hkept⟩ := @WatchedStore.truncate_zero_eq _ _ images h
  exact ⟨store, by simp only [reset, onStore_eq, hcut], hkept⟩

end Log

end Replica
