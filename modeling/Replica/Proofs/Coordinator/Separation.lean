/-
Stores that lie apart, and what may be moved past a move of a handler.

A handler touches the lifecycle state when it checks it, the queue when it
enqueues and the trigger when it offers a failure; each at one point only. The
moves of the other calls are a dequeue, an offer and a note of a fatal error.
`MessageStores.Separation` says what the stores must keep to for a dequeue to see
nothing of a fold or a push. Then each of the three moves can change places with
any move of a handler but the one that touches the same.
-/
import Replica.Coordinator.Handle
import Replica.Proofs.Queue

namespace Replica

variable {S ε ε' α β : Type}

/-- **Two actions that do not see each other**: each gives the same result before and after the other,
and both orders end in the same state. -/
structure Apart (a : EStateM ε S α) (b : EStateM ε' S β) (s : S) : Prop where
  left : (outcome a (outcome b s).2).1 = (outcome a s).1
  right : (outcome b (outcome a s).2).1 = (outcome b s).1
  state : (outcome a (outcome b s).2).2 = (outcome b (outcome a s).2).2

/-- Whether a result is the failure of a closed store. -/
def meetsClosed : Except StoreError α → Bool
  | .ok _ => false
  | .error e => e.isClosed

/-- **Stores that lie apart**: what a dequeue does and what a fold or a push does have nothing to do
with each other, as long as the stores are ready, and ready stores are open. -/
structure MessageStores.Separation (σ : Type) [MessageStores σ] where
  Ready : σ → Prop
  ready_fold {s : σ} (h : Ready s) (m : Message) : Ready (outcome (fold m) s).2
  ready_enqueue {s : σ} (h : Ready s) (m : Message) : Ready (outcome (enqueue m) s).2
  ready_push {s : σ} (h : Ready s) (m : Message) : Ready (outcome (push m) s).2
  ready_dequeue {s : σ} (h : Ready s) : Ready (outcome dequeue s).2
  fold_dequeue {s : σ} (h : Ready s) (m : Message) : Apart (fold m) dequeue s
  push_dequeue {s : σ} (h : Ready s) (m : Message) : Apart (push m) dequeue s
  reader_dequeue {s : σ} (h : Ready s) : reader (outcome dequeue s).2 = reader s
  open_reader {s : σ} (h : Ready s) : meetsClosed (reader s) = false
  open_fold {s : σ} (h : Ready s) (m : Message) : meetsClosed (outcome (fold m) s).1 = false
  open_enqueue {s : σ} (h : Ready s) (m : Message) : meetsClosed (outcome (enqueue m) s).1 = false
  open_push {s : σ} (h : Ready s) (m : Message) : meetsClosed (outcome (push m) s).1 = false

namespace Handler

/-! ## The moves, as changes of one field each -/

/-- Where a call goes from its check. -/
def afterCheck (call : Call) (state : Lifecycle) : Point :=
  if state.acceptsMessages then match call.origin with | .local => .process | .remote => .consult
  else .finished (.error (.notRunning state))

/-- Where a call goes from its consult, and the policy then. -/
def afterConsult {π : Type} [Policy π] (call : Call) (policy : π) :
    Except StoreError HistoryReader → Point × π
  | .error e => (.escalate (.store e), policy)
  | .ok reader =>
    (if (Policy.shouldProcess call.message reader policy).1 then .process
      else .finished (.ok .skipped), (Policy.shouldProcess call.message reader policy).2)

/-- Where a call goes from its fold. -/
def afterFold (call : Call) : Except StoreError Digest → Point
  | .ok digest => match call.origin with | .local => .enqueue digest | .remote => .push digest
  | .error e => .escalate (.fold call.message.id e)

/-- Where a call goes from its enqueue. -/
def afterEnqueue (digest : Digest) : Except StoreError Unit → Point
  | .ok _ => .push digest
  | .error e => .escalate (.store e)

/-- Where a call goes from its push. -/
def afterPush (digest : Digest) : Except StoreError Unit → Point
  | .ok _ => .finished (.ok (.applied digest))
  | .error e => .escalate (.store e)

variable {σ π : Type} [MessageStores σ] [Policy π] (call : Call) (c : Coordinator σ π)

theorem step_check : step call .check c = (afterCheck call c.state, c) := by
  simp only [step, afterCheck]
  split <;> rfl

theorem step_consult :
    step call .consult c =
      ((afterConsult call c.policy (MessageStores.reader c.stores)).1,
        { c with policy := (afterConsult call c.policy (MessageStores.reader c.stores)).2 }) := by
  simp only [step]
  cases MessageStores.reader c.stores <;> rfl

/-- A move of a call, with the history read as a plain list. -/
def stepReading (entries : List Message) (point : Point) : Point × Coordinator σ π :=
  match point with
  | .consult =>
    ((afterConsult call c.policy (.ok (.ofList entries))).1,
      { c with policy := (afterConsult call c.policy (.ok (.ofList entries))).2 })
  | point => step call point c

theorem stepReading_eq {entries : List Message}
    (h : MessageStores.reader c.stores = .ok (.ofList entries)) (point : Point) :
    stepReading call c entries point = step call point c := by
  unfold stepReading
  split
  · rw [step_consult, h]
  · rfl

theorem step_fold :
    step call .fold c =
      (afterFold call (outcome (MessageStores.fold call.message) c.stores).1,
        { c with stores := (outcome (MessageStores.fold call.message) c.stores).2 }) := by
  simp only [step, outcome]
  cases MessageStores.fold call.message c.stores <;> rfl

theorem step_enqueue (digest : Digest) :
    step call (.enqueue digest) c =
      (afterEnqueue digest (outcome (MessageStores.enqueue call.message) c.stores).1,
        { c with stores := (outcome (MessageStores.enqueue call.message) c.stores).2 }) := by
  simp only [step, outcome]
  cases MessageStores.enqueue call.message c.stores <;> rfl

theorem step_push (digest : Digest) :
    step call (.push digest) c =
      (afterPush digest (outcome (MessageStores.push call.message) c.stores).1,
        { c with stores := (outcome (MessageStores.push call.message) c.stores).2 }) := by
  simp only [step, outcome]
  cases MessageStores.push call.message c.stores <;> rfl

end Handler

theorem Coordinator.stores_noteFatal {σ π : Type} (c : Coordinator σ π) :
    c.noteFatal.stores = c.stores := by
  unfold noteFatal
  split <;> rfl

theorem Coordinator.policy_noteFatal {σ π : Type} (c : Coordinator σ π) :
    c.noteFatal.policy = c.policy := by
  unfold noteFatal
  split <;> rfl

theorem Coordinator.noteFatal_of_terminal {σ π : Type} {c : Coordinator σ π}
    (h : c.state.isTerminal = true) : c.noteFatal = c := by
  have hstate : ¬ (c.state = .starting ∨ c.state = .running) := by
    rintro (hs | hs) <;> simp [hs, Lifecycle.isTerminal] at h
  rw [noteFatal, if_neg hstate]

theorem Coordinator.stores_shutdown {σ π : Type} (c : Coordinator σ π) (error : CoordinatorError) :
    (c.shutdown error).2.stores = c.stores := by
  have hoffer : (c.offer error).2.stores = c.stores := rfl
  unfold shutdown
  split
  · rename_i heq
    rw [heq] at hoffer
    exact (stores_noteFatal _).trans hoffer
  · rename_i heq
    rw [heq] at hoffer
    exact hoffer

theorem Coordinator.dequeue_eq {σ π : Type} [MessageStores σ] (c : Coordinator σ π) :
    c.dequeue = (storeResult (outcome MessageStores.dequeue c.stores).1,
      { c with stores := (outcome (MessageStores.dequeue : EStateM StoreError σ _) c.stores).2 }) := by
  simp only [dequeue, outcome]
  cases (MessageStores.dequeue : EStateM StoreError σ _) c.stores <;> rfl

end Replica
