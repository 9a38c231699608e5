/-
Stores that fail.

`Faulty` lets the calls of some stores fail by a plan made beforehand: the plan says
which of the folds, the enqueues, the pushes and the dequeues fail and why. A call
that is made to fail leaves the stores below as they are. Stores that lie apart
still do when they fail.
-/
import Replica.Proofs.Coordinator.Separation

namespace Replica

/-- The calls that may be made to fail. -/
inductive StoreCall
  | fold
  | enqueue
  | push
  | dequeue
  deriving DecidableEq, Repr

/-- The faults to come: why the call that is so far ahead of its kind fails, if it does. -/
abbrev Faults := StoreCall → Nat → Option StorageError

/-- No fault. -/
def Faults.none : Faults := fun _ _ => .none

/-- What is to come behind a call. -/
def Faults.behind (call : StoreCall) (faults : Faults) : Faults :=
  fun other n => if other = call then faults other (n + 1) else faults other n

theorem Faults.behind_of_ne {call other : StoreCall} (faults : Faults) (h : other ≠ call) (n : Nat) :
    faults.behind call other n = faults other n := if_neg h

theorem Faults.behind_comm (faults : Faults) {call other : StoreCall} (h : call ≠ other) :
    (faults.behind call).behind other = (faults.behind other).behind call := by
  funext kind n
  by_cases hcall : kind = call
  · subst hcall
    simp [behind, h]
  · by_cases hother : kind = other
    · subst hother
      simp [behind, hcall]
    · simp [behind, hcall, hother]

/-- Stores with the faults to come. -/
structure Faulty (σ : Type) where
  stores : σ
  faults : Faults

namespace Faulty

variable {σ α β : Type}

/-- Makes a call, unless it is one that fails. -/
def run (call : StoreCall) (act : EStateM StoreError σ α) : EStateM StoreError (Faulty σ) α :=
  fun s =>
    match s.faults call 0 with
    | some cause => .error (.storage cause) ⟨s.stores, s.faults.behind call⟩
    | none =>
      match act s.stores with
      | .ok a stores => .ok a ⟨stores, s.faults.behind call⟩
      | .error e stores => .error e ⟨stores, s.faults.behind call⟩

instance [MessageStores σ] : MessageStores (Faulty σ) where
  fold message := run .fold (MessageStores.fold message)
  enqueue message := run .enqueue (MessageStores.enqueue message)
  push message := run .push (MessageStores.push message)
  dequeue := run .dequeue MessageStores.dequeue
  peek s := MessageStores.peek s.stores
  reader s := MessageStores.reader s.stores
  digest s := MessageStores.digest s.stores
  pendingLength s := MessageStores.pendingLength s.stores
  historyLength s := MessageStores.historyLength s.stores
  closeQueue s := { s with stores := MessageStores.closeQueue s.stores }
  closeHistory s := { s with stores := MessageStores.closeHistory s.stores }
  closeState s := { s with stores := MessageStores.closeState s.stores }
  release s := { s with stores := MessageStores.release s.stores }

/-! ## One call -/

variable {s : Faulty σ} {call other : StoreCall} {act : EStateM StoreError σ α}
  {act' : EStateM StoreError σ β}

/-- **A call either fails by the plan**, and the stores are as they were, or it is made. -/
theorem outcome_run (call : StoreCall) (act : EStateM StoreError σ α) (s : Faulty σ) :
    outcome (run call act) s =
      match s.faults call 0 with
      | some cause => (.error (.storage cause), ⟨s.stores, s.faults.behind call⟩)
      | none => ((outcome act s.stores).1, ⟨(outcome act s.stores).2, s.faults.behind call⟩) := by
  simp only [outcome, run]
  cases s.faults call 0 with
  | some cause => rfl
  | none =>
    dsimp only
    cases act s.stores <;> rfl

theorem ready_run {Ready : σ → Prop} (h : Ready s.stores) (hact : Ready (outcome act s.stores).2) :
    Ready (outcome (run call act) s).2.stores := by
  rw [outcome_run]
  cases s.faults call 0 with
  | some cause => exact h
  | none => exact hact

theorem meetsClosed_run (hact : meetsClosed (outcome act s.stores).1 = false) :
    meetsClosed (outcome (run call act) s).1 = false := by
  rw [outcome_run]
  cases s.faults call 0 with
  | some cause => rfl
  | none => exact hact

theorem apart_run (h : Apart act act' s.stores) (hne : call ≠ other) :
    Apart (run call act) (run other act') s := by
  have hleft := s.faults.behind_of_ne hne 0
  have hright := s.faults.behind_of_ne (Ne.symm hne) 0
  have hcomm := s.faults.behind_comm hne
  cases hcall : s.faults call 0 with
  | some cause =>
    cases hother : s.faults other 0 with
    | some cause' => constructor <;> simp only [outcome_run, hleft, hright, hcall, hother, hcomm]
    | none => constructor <;> simp only [outcome_run, hleft, hright, hcall, hother, hcomm]
  | none =>
    cases hother : s.faults other 0 with
    | some cause' => constructor <;> simp only [outcome_run, hleft, hright, hcall, hother, hcomm]
    | none =>
      constructor <;>
        simp only [outcome_run, hleft, hright, hcall, hother, hcomm, h.left, h.right, h.state]

/-- **Stores that lie apart** lie apart where their calls may fail. -/
def separation [MessageStores σ] (L : MessageStores.Separation σ) :
    MessageStores.Separation (Faulty σ) where
  Ready s := L.Ready s.stores
  ready_fold h m := ready_run h (L.ready_fold h m)
  ready_enqueue h m := ready_run h (L.ready_enqueue h m)
  ready_push h m := ready_run h (L.ready_push h m)
  ready_dequeue h := ready_run h (L.ready_dequeue h)
  fold_dequeue h m := apart_run (L.fold_dequeue h m) (by decide)
  push_dequeue h m := apart_run (L.push_dequeue h m) (by decide)
  reader_dequeue {s} h := by
    show MessageStores.reader (outcome (run .dequeue MessageStores.dequeue) s).2.stores =
      MessageStores.reader s.stores
    rw [outcome_run]
    cases s.faults .dequeue 0 with
    | some cause => rfl
    | none => exact L.reader_dequeue h
  open_reader h := L.open_reader h
  open_fold h m := meetsClosed_run (L.open_fold h m)
  open_enqueue h m := meetsClosed_run (L.open_enqueue h m)
  open_push h m := meetsClosed_run (L.open_push h m)

end Faulty

end Replica
