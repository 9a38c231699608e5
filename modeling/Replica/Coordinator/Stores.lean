/-
What a coordinator needs of its durable stores.
-/
import Replica.History.Reader

namespace Replica

/-- The stores behind a coordinator: a digest, a queue of pending messages and a history. -/
class MessageStores (σ : Type) where
  /-- Folds a message into the digest and returns it. -/
  fold : Message → EStateM StoreError σ Digest
  /-- Puts a message at the tail of the queue. -/
  enqueue : Message → EStateM StoreError σ Unit
  /-- Puts a message on top of the history. -/
  push : Message → EStateM StoreError σ Unit
  /-- Takes the message at the head of the queue. -/
  dequeue : EStateM StoreError σ (Option Message)
  /-- The message at the head of the queue. -/
  peek : σ → Except StoreError (Option Message)
  /-- A view of the history. -/
  reader : σ → Except StoreError HistoryReader
  /-- The current digest. -/
  digest : σ → Except StoreError Digest
  pendingLength : σ → Nat
  historyLength : σ → Nat
  /-- Closes the queue, whatever comes of it. -/
  closeQueue : σ → σ
  /-- Closes the history, whatever comes of it. -/
  closeHistory : σ → σ
  /-- Closes the state store. -/
  closeState : σ → σ
  /-- Gives the lock of the data directory back. -/
  release : σ → σ

end Replica
