/-
What the calls of a coordinator make of what its stores say.

A fold moves the snapshot on, an enqueue and a push add one message each, and a
dequeue takes one away. A call that fails, in a file or by a plan, leaves all of it.
Closing the stores and giving the lock back leave a directory that says what the
stores said.
-/
import Replica.Proofs.Coordinator.Faults
import Replica.Proofs.Coordinator.FileStores

namespace Replica

open FileSystem

/-! ## What an action may come to -/

/-- With a result the action ends as `good` says, and failing it ends as `bad` says. -/
def Ends {S ε α : Type} (act : EStateM ε S α) (s : S) (good : α → S → Prop) (bad : S → Prop) : Prop :=
  match act s with
  | .ok a s' => good a s'
  | .error _ s' => bad s'

theorem Ends.cases {S ε α : Type} {act : EStateM ε S α} {s : S} {good : α → S → Prop}
    {bad : S → Prop} (h : Ends act s good bad) :
    (∃ a s', outcome act s = (.ok a, s') ∧ good a s') ∨
      ∃ e s', outcome act s = (.error e, s') ∧ bad s' := by
  unfold Ends at h
  unfold outcome
  cases hrun : act s with
  | ok a s' =>
    rw [hrun] at h
    exact .inl ⟨a, s', rfl, h⟩
  | error e s' =>
    rw [hrun] at h
    exact .inr ⟨e, s', rfl, h⟩

theorem Faulty.ends_run {σ α : Type} {act : EStateM StoreError σ α} {s : Faulty σ}
    {good : α → σ → Prop} {bad : σ → Prop} (h : Ends act s.stores good bad) (hbad : bad s.stores)
    (call : StoreCall) :
    Ends (run call act) s (fun a s' => good a s'.stores) fun s' => bad s'.stores := by
  unfold Ends run at *
  cases s.faults call 0 with
  | some cause => exact hbad
  | none =>
    dsimp only
    split at h
    · rename_i hrun
      rw [hrun]
      exact h
    · rename_i hrun
      rw [hrun]
      exact h

namespace FileStores

open DataDirectory

variable {path : String} {here : Place} {fold : Fold} {pending entries : List Message}
  {snapshot : Snapshot} {stores : FileStores}

/-! ## The four calls -/

theorem Says.fold_ends (h : stores.Says path here fold pending entries snapshot) (message : Message) :
    Ends (MessageStores.fold message) stores
      (fun _ stores' => stores'.Says path here fold pending entries
        ⟨fold.step snapshot.digest message, snapshot.applied + 1⟩)
      fun stores' => stores'.Says path here fold pending entries snapshot := by
  unfold Ends
  rcases h.inDirectory.fold_cases message with ⟨hfits, hrun⟩ | ⟨-, e, hrun⟩
  · obtain ⟨hthere, halters⟩ := h.inDirectory.withFold message hfits
    rw [hrun]
    refine ⟨hthere, h.pending, h.fold, ?_, h.fits, ?_, (entry?_replaced ..).2.1⟩
    · show stores.state.next message = _
      rw [StateStore.next, h.fold, h.snapshot]
    · show FileSystem.entry? (stores.disk.replaced ..) _ = none
      rw [halters.entry (by decide), h.queueTemporary]
  · rw [hrun]
    exact h

theorem Says.enqueue_ends (h : stores.Says path here fold pending entries snapshot)
    (message : Message) :
    Ends (MessageStores.enqueue message) stores
      (fun _ stores' => stores'.Says path here fold (pending ++ [message]) entries snapshot)
      fun stores' => stores'.Says path here fold pending entries snapshot := by
  unfold Ends
  obtain ⟨queue, disk', hthere, halters, hcases⟩ := h.inDirectory.enqueue_cases message
  have hsaid {pending' : List Message} (hpending : queue.pending = pending') :
      Says { stores with queue, disk := disk' } path here fold pending' entries snapshot :=
    ⟨hthere, hpending, h.fold, h.snapshot, h.fits,
      (halters.entry (by decide)).trans h.queueTemporary,
      (halters.entry (by decide)).trans h.stateTemporary⟩
  rcases hcases with ⟨hrun, hpending⟩ | ⟨e, -, hrun, hpending⟩
  · rw [hrun]
    exact hsaid (by rw [hpending, h.pending])
  · rw [hrun]
    exact hsaid (hpending.trans h.pending)

theorem Says.push_ends (h : stores.Says path here fold pending entries snapshot) (message : Message) :
    Ends (MessageStores.push message) stores
      (fun _ stores' => stores'.Says path here fold pending (entries ++ [message]) snapshot)
      fun stores' => stores'.Says path here fold pending entries snapshot := by
  unfold Ends
  obtain ⟨history, disk', halters, hcases⟩ := h.inDirectory.push_cases message
  have hsaid {entries' : List Message}
      (hthere : InDirectory { stores with history, disk := disk' } path here entries') :
      Says { stores with history, disk := disk' } path here fold pending entries' snapshot :=
    ⟨hthere, h.pending, h.fold, h.snapshot, h.fits,
      (halters.entry (by decide)).trans h.queueTemporary,
      (halters.entry (by decide)).trans h.stateTemporary⟩
  rcases hcases with ⟨hrun, hthere⟩ | ⟨e, -, hrun, hthere⟩
  · rw [hrun]
    exact hsaid hthere
  · rw [hrun]
    exact hsaid hthere

theorem Says.dequeue_ends (h : stores.Says path here fold pending entries snapshot) :
    Ends MessageStores.dequeue stores
      (fun given stores' => given = pending.head? ∧
        stores'.Says path here fold pending.tail entries snapshot)
      fun stores' => stores'.Says path here fold pending entries snapshot := by
  unfold Ends
  obtain ⟨queue, disk', hrun, hthere, halters, hpending⟩ := h.inDirectory.dequeue_cases
  rw [hrun]
  exact ⟨by rw [h.pending], hthere, by rw [hpending, h.pending], h.fold, h.snapshot, h.fits,
    (halters.entry (by decide)).trans h.queueTemporary,
    (halters.entry (by decide)).trans h.stateTemporary⟩

/-! ## Calls that go through -/

theorem Says.digest_eq (h : stores.Says path here fold pending entries snapshot) :
    MessageStores.digest stores = .ok snapshot.digest := by
  show stores.state.digest = .ok snapshot.digest
  rw [StateStore.digest, StateStore.current, h.inDirectory.state.isOpen, h.snapshot]
  rfl

theorem Says.fold_ok (h : stores.Says path here fold pending entries snapshot)
    (hroom : Route.Fits (Path.temporary (statePath path))) (message : Message) :
    ∃ digest stores', MessageStores.fold message stores = .ok digest stores' ∧
      stores'.Says path here fold pending entries
        ⟨fold.step snapshot.digest message, snapshot.applied + 1⟩ := by
  have hends := h.fold_ends message
  rcases h.inDirectory.fold_cases message with ⟨-, hrun⟩ | ⟨hlong, -⟩
  · rw [Ends, hrun] at hends
    exact ⟨_, _, hrun, hends⟩
  · exact absurd hroom hlong

theorem Says.enqueue_ok (h : stores.Says path here fold pending entries snapshot) {message : Message}
    (hfits : message.Fits) :
    ∃ stores', MessageStores.enqueue message stores = .ok () stores' ∧
      stores'.Says path here fold (pending ++ [message]) entries snapshot := by
  obtain ⟨s, hrun⟩ := h.inDirectory.queue.enqueue_of_fits hfits
  have hcall : MessageStores.enqueue message stores = .ok () (queuePart.put s stores) := by
    show queuePart.run (Queue.enqueue message) stores = _
    rw [Part.run, show Queue.enqueue message (queuePart.get stores) = _ from hrun]
  have hends := h.enqueue_ends message
  rw [Ends, hcall] at hends
  exact ⟨_, hcall, hends⟩

theorem Says.push_ok (h : stores.Says path here fold pending entries snapshot) {message : Message}
    (hfits : message.Fits) :
    ∃ stores', MessageStores.push message stores = .ok () stores' ∧
      stores'.Says path here fold pending (entries ++ [message]) snapshot := by
  obtain ⟨s, hrun⟩ := h.inDirectory.history.push_of_fits hfits
  have hcall : MessageStores.push message stores = .ok () (historyPart.put s stores) := by
    show historyPart.run (History.push message) stores = _
    rw [Part.run, show History.push message (historyPart.get stores) = _ from hrun]
  have hends := h.push_ends message
  rw [Ends, hcall] at hends
  exact ⟨_, hcall, hends⟩

theorem Says.dequeue_ok (h : stores.Says path here fold pending entries snapshot) :
    ∃ stores', MessageStores.dequeue stores = .ok pending.head? stores' ∧
      stores'.Says path here fold pending.tail entries snapshot := by
  have hends := h.dequeue_ends
  obtain ⟨queue, disk', hrun, -⟩ := h.inDirectory.dequeue_cases
  rw [Ends, hrun] at hends
  rw [h.pending] at hrun
  exact ⟨_, hrun, hends.2⟩

/-! ## Closing -/

theorem Says.directorySays (h : stores.Says path here fold pending entries snapshot) :
    DirectorySays stores.disk path here fold pending entries snapshot := by
  obtain ⟨log, -, hlog⟩ := h.inDirectory.queue
  have hqueue := hlog.fileSays
  have hstate := h.inDirectory.state.holds
  rw [h.pending] at hqueue
  rw [h.snapshot] at hstate
  exact ⟨h.fits, h.inDirectory.leads, h.inDirectory.tidy, hqueue, h.inDirectory.history.fileSays,
    .inr hstate, h.queueTemporary, h.stateTemporary⟩

theorem InDirectory.disk_close (h : stores.InDirectory path here entries) :
    (MessageStores.closeState (MessageStores.closeHistory (MessageStores.closeQueue stores))).disk =
      stores.disk := by
  obtain ⟨log, hlog, -, n, image, replay, -, hheld, -⟩ := h.queue
  obtain ⟨m, -, log', image', hhistory, -, hheld', -⟩ := h.history
  have hlog' : stores.history.log = some log' := by
    rw [hhistory]
    rfl
  have hqueue : MessageStores.closeQueue stores =
      { stores with queue := { stores.queue with log := none } } := by
    show after (queuePart.run Queue.close) stores = _
    rw [after, Part.run, queuePart]
    dsimp only
    rw [Queue.close_file hlog hheld.isOn]
  rw [hqueue]
  show (after (historyPart.run History.close)
    { stores with queue := { stores.queue with log := none } }).disk = stores.disk
  rw [after, Part.run, historyPart]
  dsimp only
  rw [History.close_file hlog' hheld'.isOn]

theorem DirectorySays.release (h : DirectorySays stores.disk path here fold pending entries snapshot) :
    DirectorySays stores.release.disk path here fold pending entries snapshot := by
  unfold FileStores.release
  cases stores.directory with
  | none => exact h
  | some directory => exact h.alters_lockFile (alters_locked h.tidy _ _)

end FileStores

end Replica
