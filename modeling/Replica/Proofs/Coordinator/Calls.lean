/-
Calls of a coordinator whose stores were opened in a data directory.

The stores of a directory lie apart, also where calls on them fail, so all that holds
of systems over such stores holds here: `System.serialized_of_open` says it of every
run from the opened stores on.
-/
import Replica.Policy.Recording
import Replica.Proofs.Coordinator.Faults
import Replica.Proofs.Coordinator.FileSeparation
import Replica.Proofs.Coordinator.Serial

namespace Replica.System

variable {σ π : Type} [MessageStores σ] [Policy π]

/-! ## What is said of a run -/

/-- Nobody is inside but one handler call at most. -/
def IsExclusive (s : System σ π) : Prop :=
  ∀ {i j : Nat} {call call' : Handler.Call} {point point' : Handler.Point},
    s.tasks[i]? = some (.inside call point) → s.tasks[j]? = some (.inside call' point') → i = j

/-- No handler call has met a closed store, whether it is inside or has returned. -/
def IsOpen (s : System σ π) : Prop :=
  (∀ {index : Nat} {call : Handler.Call} {point : Handler.Point},
      s.tasks[index]? = some (.inside call point) → ¬ point.MetClosed) ∧
    ∀ {index : Nat} {call : Handler.Call} {error : CoordinatorError},
      s.tasks[index]? = some (.returned call (.error error)) → error.isClosed = false

/-- No move of a handler call changes the stores. -/
def IsCut (s : System σ π) : Prop :=
  ∀ {who : Who} {s' : System σ π}, s.isHandler who = true → s.step who = some s' →
    s'.coordinator.stores = s.coordinator.stores

variable {s : System σ π} {L : MessageStores.Separation σ} {modules : Nat}

omit [Policy π] in
theorem Sound.isExclusive (h : Sound L modules s) : s.IsExclusive := by
  intro i j call call' point point' hi hj
  have hheld := (h.task hi).1
  rw [(h.task hj).1] at hheld
  cases hheld
  rfl

omit [Policy π] in
theorem Sound.isOpen (h : Sound L modules s) : s.IsOpen :=
  ⟨fun hinside => (h.task hinside).2.2, fun hreturned => h.task hreturned⟩

/-- **The stop cuts cleanly**: once it has entered no handler changes a store. -/
theorem Sound.isCut (h : Sound L modules s) (hentered : s.HasEntered) : s.IsCut := by
  intro who s' hhandler hstep
  cases who with
  | stop => cases hhandler
  | task index =>
    cases taskStep_of_stepTask hstep with
    | take | give => rfl
    | @go call point htask hleft =>
      have hidle : point.isActive = false := by
        cases hactive : point.isActive with
        | false => rfl
        | true => exact absurd hentered ((h.task htask).2.1 hactive)
      show (Handler.step call point s.coordinator).2.stores = s.coordinator.stores
      rw [Handler.step_of_not_active hidle]
    | @other task task' c htask hmove =>
      have hother := (Task.isHandler_of_move hmove).1
      simp only [isHandler, htask, Option.any_some, hother] at hhandler
      cases hhandler

/-! ## Runs over opened stores -/

/-- **Messages are serialized and the stop cuts cleanly**, whatever calls on the stores fail and in
whatever order the calls and the stop make their moves. One handler call at most is inside. With none
inside, results and stores are those of a serial run: the handler calls one after another in the order
in which they took the lock, and the moves of the others between them. Once the stop has entered, no
handler changes a store, and no handler ever meets a closed one. -/
theorem serialized_of_open {config : Config} {fold : Fold} {disk disk' : FileSystem}
    {c : Coordinator (Faulty FileStores) π} (htidy : ∀ here, disk.Tidy here)
    (hopen : FileStores.open config fold disk = .ok c.stores.stores disk')
    {calls : List Task} (hnew : ∀ task ∈ calls, task.isNew = true) {modules : Nat}
    {moves : List Who} {s : System (Faulty FileStores) π}
    (hrun : Run (initial c calls modules) moves s) :
    s.IsExclusive ∧
      (¬ s.IsBusy → ∃ turns, Serial (initial c calls modules) turns s ∧ wholes turns = s.order ∧
        (parts turns).Perm ((initial c calls modules).foreign moves)) ∧
      (s.HasEntered → s.IsCut) ∧ s.IsOpen := by
  obtain ⟨here, entries, hthere⟩ := FileStores.inDirectory_of_open htidy hopen
  have hready : (Faulty.separation FileStores.separation).Ready c.stores :=
    ⟨config.dataDirectory, here, entries, hthere⟩
  have hstart := sound_initial _ hready hnew modules
  have hsound := sound_run hstart hrun
  refine ⟨hsound.isExclusive, fun hfree => ?_, hsound.isCut, hsound.isOpen⟩
  have hidle : ¬ (initial c calls modules).IsBusy := by
    rintro ⟨index, hheld⟩
    cases hheld
  obtain ⟨turns, hserial, horder, hparts⟩ := serial_of_run hstart hidle hrun hfree
  exact ⟨turns, hserial, horder.symm, hparts⟩

/-- Where moves lead; none if somebody moves who has to wait. -/
def after (start : System σ π) (moves : List Who) : Option (System σ π) :=
  moves.foldlM (fun s who => s.step who) start

theorem run_of_after {start s : System σ π} {moves moves' : List Who} {t : System σ π}
    (hbefore : Run start moves s) (h : s.after moves' = some t) : Run start (moves ++ moves') t := by
  induction moves' generalizing moves s with
  | nil =>
    cases h
    simpa using hbefore
  | cons who moves' ih =>
    rw [after, List.foldlM_cons] at h
    obtain ⟨s', hstep, h⟩ := Option.bind_eq_some_iff.1 h
    have hrun := ih (hbefore.snoc hstep) h
    rwa [List.append_assoc] at hrun

/-- The first push fails. -/
def firstPushFails : Faults :=
  fun call n => if call = .push ∧ n = 0 then some (.corrupted "out of reach") else none

/-- Two messages, a dequeue and a shutdown. -/
def fourCalls : List Task :=
  [.waiting ⟨⟨⟨1⟩, []⟩, .local⟩, .waiting ⟨⟨⟨2⟩, []⟩, .remote⟩, .dequeue none,
    .shutdown (.other "enough") .fire]

/-- The shutdown and the dequeue fall into the first message, and the stop comes before the second. -/
def stopBetween : List Who :=
  [.task 0, .task 0, .task 0, .task 3, .task 0, .task 0, .task 2, .task 0, .task 0, .task 0, .stop,
    .stop, .stop, .task 3, .task 1, .task 1, .task 1] ++ List.replicate 8 .stop

/-- Four calls and a stop at once. -/
theorem serialized_of_open_stopBetween :
    ∃ (disk : FileSystem) (c : Coordinator (Faulty FileStores) RecordingPolicy)
      (s : System (Faulty FileStores) RecordingPolicy),
      FileStores.open { dataDirectory := "/data" } .sum {} = .ok c.stores.stores disk ∧
        Run (initial c fourCalls 1) stopBetween s ∧ s.order = [0, 1] ∧ s.IsExclusive ∧
        (∃ turns, Serial (initial c fourCalls 1) turns s ∧ wholes turns = [0, 1] ∧
          (parts turns).Perm ((initial c fourCalls 1).foreign stopBetween)) ∧ s.IsCut ∧ s.IsOpen := by
  have heval : (match FileStores.open { dataDirectory := "/data" } .sum {} with
      | .error .. => false
      | .ok stores _ =>
        match (initial (⟨⟨stores, firstPushFails⟩, ({} : RecordingPolicy), .armed, .running⟩ :
            Coordinator (Faulty FileStores) RecordingPolicy) fourCalls 1).after stopBetween with
        | none => false
        | some s => decide (s.order = [0, 1] ∧ StopMove.enter ∉ s.stop ∧ s.holder = .nobody)) = true := by
    decide +kernel
  split at heval
  · cases heval
  · rename_i stores disk hopen
    split at heval
    · cases heval
    · rename_i s hafter
      obtain ⟨horder, hentered, hholder⟩ := of_decide_eq_true heval
      have htidy (here : Place) : FileSystem.Tidy {} here :=
        FileSystem.tidy_of_empty fun name => FileSystem.entry?_below {} here name
      have hnew : ∀ task ∈ fourCalls, task.isNew = true := by decide
      have hfree : ¬ s.IsBusy := by
        rintro ⟨index, hheld⟩
        rw [hholder] at hheld
        cases hheld
      have hrun := run_of_after .nil hafter
      obtain ⟨hexclusive, hserial, hcut, hmet⟩ := serialized_of_open htidy hopen hnew hrun
      obtain ⟨turns, hturns, horder', hparts⟩ := hserial hfree
      exact ⟨disk, _, s, hopen, hrun, horder, hexclusive, ⟨turns, hturns, horder'.trans horder, hparts⟩,
        hcut hentered, hmet⟩

end Replica.System
