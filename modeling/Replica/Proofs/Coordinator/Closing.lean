/-
Closed stores.

A store that has been closed stays closed, and a call on it changes nothing; no call
touches the lock of the directory (`FileStores.LeavesClosed`). So it is for stores
whose calls may fail on their own, and for every move of a handler and of the other calls
(`System.called_taskStep`). Each move that closes a store closes that one and leaves the
others as they are.
-/
import Replica.Proofs.Coordinator.Exclusion
import Replica.Proofs.Coordinator.Faults
import Replica.Proofs.Coordinator.FileStores

namespace Replica

/-- **Stores behind at most one call.** -/
inductive MessageStores.Called {σ : Type} [MessageStores σ] (stores : σ) : σ → Prop
  | nothing : Called stores stores
  | fold (message : Message) : Called stores (outcome (MessageStores.fold message) stores).2
  | enqueue (message : Message) : Called stores (outcome (MessageStores.enqueue message) stores).2
  | push (message : Message) : Called stores (outcome (MessageStores.push message) stores).2
  | dequeue : Called stores (outcome (MessageStores.dequeue : EStateM StoreError σ _) stores).2

open MessageStores (Called)

/-! ## Moves and calls -/

section

variable {σ π : Type} [MessageStores σ] [Policy π]

theorem Handler.called_step (call : Call) (point : Point) (c : Coordinator σ π) :
    Called c.stores (step call point c).2.stores := by
  cases point with
  | fold =>
    rw [step_fold]
    exact .fold _
  | enqueue digest =>
    rw [step_enqueue]
    exact .enqueue _
  | push digest =>
    rw [step_push]
    exact .push _
  | check =>
    rw [step_check]
    exact .nothing
  | consult =>
    rw [step_consult]
    exact .nothing
  | process | escalate | finished => exact .nothing
  | note error =>
    show Called c.stores c.noteFatal.stores
    rw [Coordinator.stores_noteFatal]
    exact .nothing

omit [Policy π] in
theorem Task.called_move {task task' : Task} {c c' : Coordinator σ π}
    (h : task.move c = some (task', c')) : Called c.stores c'.stores := by
  cases moves_of_move h with
  | dequeue =>
    rw [Coordinator.dequeue_eq]
    exact .dequeue
  | fire => exact .nothing
  | note =>
    rw [Coordinator.stores_noteFatal]
    exact .nothing

/-- **A move of a call** makes one call of the stores at most. -/
theorem System.called_taskStep {index : Nat} {s s' : System σ π} (h : TaskStep index s s') :
    Called s.coordinator.stores s'.coordinator.stores := by
  cases h with
  | take | give => exact .nothing
  | @go call point => exact Handler.called_step call point s.coordinator
  | other _ hmove => exact Task.called_move hmove

end

/-! ## Calls on closed stores -/

theorem Part.outcome_run {S T ε α : Type} (part : Part S T) (act : EStateM ε T α) (s : S) :
    outcome (part.run act) s =
      ((outcome act (part.get s)).1, part.put (outcome act (part.get s)).2 s) := by
  simp only [outcome, run]
  cases act (part.get s) <;> rfl

theorem StateStore.apply_of_closed {state : StateStore} (h : state.isClosed = true)
    (message : Message) (disk : FileSystem) :
    (outcome (StateStore.apply message) (state, disk)).2 = (state, disk) := by
  simp only [outcome, apply, applyWith, h, if_true]

namespace FileStores

variable {stores stores' : FileStores}

/-- **What no call changes**: a closed store stays closed, the lock stays as it is, and where all
three stores are closed so does everything. -/
structure LeavesClosed (stores stores' : FileStores) : Prop where
  queue (h : stores.queue.isClosed = true) : stores'.queue.isClosed = true
  history (h : stores.history.isClosed = true) : stores'.history.isClosed = true
  state (h : stores.state.isClosed = true) : stores'.state.isClosed = true
  directory : stores'.directory = stores.directory
  closed (hqueue : stores.queue.isClosed = true) (hhistory : stores.history.isClosed = true)
    (hstate : stores.state.isClosed = true) : stores' = stores

theorem leavesClosed_queue {α : Type} {act : Queue.Action OpenFile FileSystem α}
    (h : stores.queue.isClosed = true →
      (outcome act (stores.queue, stores.disk)).2 = (stores.queue, stores.disk)) :
    stores.LeavesClosed (outcome (queuePart.run act) stores).2 := by
  have hput : (outcome (queuePart.run act) stores).2 =
      queuePart.put (outcome act (stores.queue, stores.disk)).2 stores := by
    rw [Part.outcome_run]
    rfl
  rw [hput]
  refine ⟨fun hclosed => ?_, id, id, rfl, fun hclosed _ _ => ?_⟩
  · rw [h hclosed]
    exact hclosed
  · rw [h hclosed]
    rfl

theorem leavesClosed_history {α : Type} {act : History.Action OpenFile FileSystem α}
    (h : stores.history.isClosed = true →
      (outcome act (stores.history, stores.disk)).2 = (stores.history, stores.disk)) :
    stores.LeavesClosed (outcome (historyPart.run act) stores).2 := by
  have hput : (outcome (historyPart.run act) stores).2 =
      historyPart.put (outcome act (stores.history, stores.disk)).2 stores := by
    rw [Part.outcome_run]
    rfl
  rw [hput]
  refine ⟨id, fun hclosed => ?_, id, rfl, fun _ hclosed _ => ?_⟩
  · rw [h hclosed]
    exact hclosed
  · rw [h hclosed]
    rfl

theorem leavesClosed_state {α : Type} {act : StateStore.Action α}
    (h : stores.state.isClosed = true →
      (outcome act (stores.state, stores.disk)).2 = (stores.state, stores.disk)) :
    stores.LeavesClosed (outcome (statePart.run act) stores).2 := by
  have hput : (outcome (statePart.run act) stores).2 =
      statePart.put (outcome act (stores.state, stores.disk)).2 stores := by
    rw [Part.outcome_run]
    rfl
  rw [hput]
  refine ⟨id, id, fun hclosed => ?_, rfl, fun _ _ hclosed => ?_⟩
  · rw [h hclosed]
    exact hclosed
  · rw [h hclosed]
    rfl

/-- **A call** leaves what is closed alone. -/
theorem leavesClosed_of_called (h : Called stores stores') : stores.LeavesClosed stores' := by
  cases h with
  | nothing => exact ⟨id, id, id, rfl, fun _ _ _ => rfl⟩
  | fold message => exact leavesClosed_state fun h => StateStore.apply_of_closed h message _
  | enqueue message => exact leavesClosed_queue fun h => by rw [outcome, Queue.enqueue_of_isClosed h]
  | push message => exact leavesClosed_history fun h => by rw [outcome, History.push_of_isClosed h]
  | dequeue => exact leavesClosed_queue fun h => by rw [outcome, Queue.dequeue_of_isClosed h]

end FileStores

theorem Faulty.called {σ : Type} [MessageStores σ] {s s' : Faulty σ} (h : Called s s') :
    Called s.stores s'.stores := by
  have hrun {call : StoreCall} {α : Type} {act : EStateM StoreError σ α}
      (hcalled : Called s.stores (outcome act s.stores).2) :
      Called s.stores (outcome (Faulty.run call act) s).2.stores := by
    rw [outcome_run]
    cases s.faults call 0 with
    | some cause => exact .nothing
    | none => exact hcalled
  cases h with
  | nothing => exact .nothing
  | fold message => exact hrun (.fold message)
  | enqueue message => exact hrun (.enqueue message)
  | push message => exact hrun (.push message)
  | dequeue => exact hrun .dequeue

/-! ## Closing -/

namespace FileStores

theorem after_eq {α : Type} (act : Action α) (stores : FileStores) :
    after act stores = (outcome act stores).2 := by
  simp only [after, outcome]
  cases act stores <;> rfl

theorem closeQueue_eq (stores : FileStores) : MessageStores.closeQueue stores =
    queuePart.put (outcome Queue.close (stores.queue, stores.disk)).2 stores := by
  show after (queuePart.run Queue.close) stores = _
  rw [after_eq, Part.outcome_run]
  rfl

theorem closeHistory_eq (stores : FileStores) : MessageStores.closeHistory stores =
    historyPart.put (outcome History.close (stores.history, stores.disk)).2 stores := by
  show after (historyPart.run History.close) stores = _
  rw [after_eq, Part.outcome_run]
  rfl

theorem release_eq {stores : FileStores} {directory : DataDirectory}
    (h : stores.directory = some directory) :
    MessageStores.release stores =
        { stores with directory := none, disk := directory.release stores.disk } ∧
      directory.lock ∉ (directory.release stores.disk).locked := by
  constructor
  · show stores.release = _
    rw [release, h]
  · simp [DataDirectory.release, FileSystem.unlock]

theorem directory_of_openIn {directory : DataDirectory} {options : StoreOptions} {fold : Fold}
    {disk disk' : FileSystem} {stores : FileStores}
    (h : openIn directory options fold disk = .ok stores disk') :
    stores.directory = some directory := by
  rw [openIn_eq] at h
  split at h
  · cases h
  · split at h
    · cases h
    · split at h
      · cases h
      · cases h
        rfl

theorem directory_of_open {config : Config} {fold : Fold} {disk disk' : FileSystem}
    {stores : FileStores} (h : FileStores.open config fold disk = .ok stores disk') :
    ∃ directory, stores.directory = some directory := by
  rw [open_eq] at h
  split at h
  · cases h
  · rename_i directory disk₁ hlock
    split at h
    · rename_i stores' disk₂ hopen
      cases h
      exact ⟨directory, directory_of_openIn hopen⟩
    · cases h

theorem isClosed_of_openFile {path : String} {fold : Fold} {disk disk' : FileSystem}
    {state : StateStore} (h : StateStore.openFile path fold disk = .ok state disk') :
    state.isClosed = false := by
  rw [StateStore.openFile, StateStore.openFileWith_eq] at h
  split at h
  · cases h
  · split at h
    · split at h
      · cases h
      · cases h
        rfl
    · split at h
      · cases h
      · cases h
        rfl

theorem ready_of_open {config : Config} {fold : Fold} {disk disk' : FileSystem} {stores : FileStores}
    (h : FileStores.open config fold disk = .ok stores disk') :
    stores.disk = disk' ∧ stores.state.isClosed = false := by
  rw [open_eq] at h
  split at h
  · cases h
  · split at h
    · rename_i hopen
      cases h
      rw [openIn_eq] at hopen
      split at hopen
      · cases hopen
      · split at hopen
        · cases hopen
        · split at hopen
          · cases hopen
          · rename_i hstate
            cases hopen
            exact ⟨rfl, isClosed_of_openFile hstate⟩
    · cases h

end FileStores

end Replica
