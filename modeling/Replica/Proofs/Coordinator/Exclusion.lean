/-
What holds in every state a run reaches.

`System.Sound` is the invariant. One handler call at most is inside, because it
holds the lock. The stop enters with the lock in its hand, so no handler call is
past its check then, and from then on no check succeeds. Up to then the stores are
ready, so no handler meets a closed one. One move keeps all of it (`sound_step`),
and so does a run (`sound_run`).
-/
import Replica.Proofs.Coordinator.System

namespace Replica

theorem eq_of_getElem?_set {α : Type} {entries : List α} {i j : Nat} {entry other : α}
    (h : (entries.set i entry)[j]? = some other) :
    (j = i ∧ other = entry) ∨ (j ≠ i ∧ entries[j]? = some other) := by
  rw [List.getElem?_set] at h
  split at h
  · rename_i hij
    split at h
    · cases h
      exact .inl ⟨hij.symm, rfl⟩
    · cases h
  · rename_i hij
    exact .inr ⟨fun hji => hij hji.symm, h⟩

/-! ## Failures of closed stores -/

/-- Whether the failure is that of a closed store. -/
def CoordinatorError.isClosed : CoordinatorError → Bool
  | store cause => cause.isClosed
  | fold _ cause => cause.isClosed
  | _ => false

namespace Handler

/-- Whether a call is past its check and has not finished. -/
def Point.isActive : Point → Bool
  | check | finished _ => false
  | _ => true

/-- The error a call has met, if any. -/
def Point.error? : Point → Option CoordinatorError
  | escalate error | note error | finished (.error error) => some error
  | _ => none

/-- Whether a call has met a closed store. -/
def Point.MetClosed (point : Point) : Prop := ∃ error, point.error? = some error ∧ error.isClosed = true

variable {σ π : Type} [MessageStores σ] [Policy π] {call : Call} {c : Coordinator σ π}

theorem step_of_not_active {point : Point} (h : point.isActive = false) :
    (step call point c).2 = c := by
  cases point with
  | check => unfold step; dsimp only; split <;> rfl
  | finished => rfl
  | _ => cases h

theorem accepts_of_active_check (h : (step call .check c).1.isActive = true) :
    c.state.acceptsMessages = true := by
  unfold step at h
  dsimp only at h
  split at h
  · assumption
  · cases h

/-- In a teardown nobody gets past the check. -/
theorem isActive_of_step {point : Point} (hstate : c.state.isTerminal = true)
    (hleft : point.result? = none) (h : (step call point c).1.isActive = true) :
    point.isActive = true := by
  cases point with
  | check =>
    have haccepts := accepts_of_active_check h
    simp [Lifecycle.acceptsMessages] at haccepts
    simp [haccepts, Lifecycle.isTerminal] at hstate
  | finished => cases hleft
  | _ => rfl

theorem step_state_of_terminal (point : Point) (h : c.state.isTerminal = true) :
    (step call point c).2.state = c.state := by
  cases point with
  | check => rw [step_of_not_active rfl]
  | finished => rfl
  | consult => unfold step; dsimp only; split <;> rfl
  | process => rfl
  | fold => rw [step_fold]
  | enqueue => rw [step_enqueue]
  | push => rw [step_push]
  | escalate error => rfl
  | note error =>
    show c.noteFatal.state = c.state
    rw [Coordinator.noteFatal_of_terminal h]

theorem ready_step {L : MessageStores.Separation σ} (point : Point) (h : L.Ready c.stores) :
    L.Ready (step call point c).2.stores := by
  cases point with
  | check => rwa [step_of_not_active rfl]
  | finished => exact h
  | consult => unfold step; dsimp only; split <;> exact h
  | process => exact h
  | fold => rw [step_fold]; exact L.ready_fold h _
  | enqueue => rw [step_enqueue]; exact L.ready_enqueue h _
  | push => rw [step_push]; exact L.ready_push h _
  | escalate error => exact h
  | note error =>
    show L.Ready c.noteFatal.stores
    rwa [Coordinator.stores_noteFatal]

theorem not_metClosed_escalate {error : CoordinatorError} (h : error.isClosed = false) :
    ¬ (Point.escalate error).MetClosed := by
  rintro ⟨_, herror, hclosed⟩
  cases herror
  rw [h] at hclosed
  cases hclosed

theorem not_metClosed_of_error? {point : Point} (h : point.error? = none) : ¬ point.MetClosed := by
  rintro ⟨_, herror, -⟩
  rw [h] at herror
  cases herror

theorem not_metClosed_afterFold {result : Except StoreError Digest} (h : meetsClosed result = false) :
    ¬ (afterFold call result).MetClosed := by
  cases result with
  | error e => exact not_metClosed_escalate h
  | ok digest =>
    unfold afterFold
    cases call.origin <;> exact not_metClosed_of_error? rfl

theorem not_metClosed_afterEnqueue (digest : Digest) {result : Except StoreError Unit}
    (h : meetsClosed result = false) : ¬ (afterEnqueue digest result).MetClosed := by
  cases result with
  | error e => exact not_metClosed_escalate h
  | ok => exact not_metClosed_of_error? rfl

theorem not_metClosed_afterPush (digest : Digest) {result : Except StoreError Unit}
    (h : meetsClosed result = false) : ¬ (afterPush digest result).MetClosed := by
  cases result with
  | error e => exact not_metClosed_escalate h
  | ok => exact not_metClosed_of_error? rfl

theorem not_metClosed_step {L : MessageStores.Separation σ} {point : Point}
    (hready : point.isActive = true → L.Ready c.stores) (h : ¬ point.MetClosed) :
    ¬ (step call point c).1.MetClosed := by
  cases point with
  | check =>
    unfold step
    dsimp only
    split
    · cases call.origin <;> exact not_metClosed_of_error? rfl
    · rintro ⟨_, herror, hclosed⟩
      cases herror
      cases hclosed
  | consult =>
    have hopen := L.open_reader (hready rfl)
    unfold step
    dsimp only
    split
    · rename_i e hreader
      rw [hreader] at hopen
      exact not_metClosed_escalate hopen
    · dsimp only
      split <;> exact not_metClosed_of_error? rfl
  | process =>
    unfold step
    dsimp only
    split
    · exact not_metClosed_of_error? rfl
    · exact not_metClosed_escalate rfl
  | fold =>
    rw [step_fold]
    exact not_metClosed_afterFold (L.open_fold (hready rfl) call.message)
  | enqueue digest =>
    rw [step_enqueue]
    exact not_metClosed_afterEnqueue digest (L.open_enqueue (hready rfl) call.message)
  | push digest =>
    rw [step_push]
    exact not_metClosed_afterPush digest (L.open_push (hready rfl) call.message)
  | escalate error =>
    have hsame : (step call (.escalate error) c).1.error? = some error := by
      unfold step
      dsimp only
      split <;> rfl
    rintro ⟨_, herror, hclosed⟩
    exact h ⟨error, rfl, by rw [hsame] at herror; cases herror; exact hclosed⟩
  | note error => exact h
  | finished result => exact h

end Handler

/-! ## The other calls -/

namespace Task

variable {σ π : Type} [MessageStores σ] {task task' : Task} {c c' : Coordinator σ π}

theorem isHandler_of_move (h : task.move c = some (task', c')) :
    task.isHandler = false ∧ task'.isHandler = false := by
  cases moves_of_move h with
  | dequeue | fire | note => exact ⟨rfl, rfl⟩

theorem ready_move {L : MessageStores.Separation σ} (h : task.move c = some (task', c'))
    (hready : L.Ready c.stores) : L.Ready c'.stores := by
  cases moves_of_move h with
  | dequeue =>
    rw [Coordinator.dequeue_eq]
    exact L.ready_dequeue hready
  | fire => exact hready
  | note => rwa [Coordinator.stores_noteFatal]

theorem state_move_of_terminal (h : task.move c = some (task', c'))
    (hdown : c.state.isTerminal = true) : c'.state = c.state := by
  cases moves_of_move h with
  | dequeue => rw [Coordinator.dequeue_eq]
  | fire => rfl
  | note => rw [Coordinator.noteFatal_of_terminal hdown]

end Task

/-! ## What one move can do -/

namespace System

variable {σ π : Type} [MessageStores σ] [Policy π] {s s' : System σ π}

/-- The system with a call and the coordinator as a move left them. -/
def put (s : System σ π) (index : Nat) (task : Task) (coordinator : Coordinator σ π) : System σ π :=
  { s with coordinator, tasks := s.tasks.set index task }

/-- **The moves of a call**: it takes the lock, goes from point to point, gives the lock back, or is
no handler call. -/
inductive TaskStep (index : Nat) (s : System σ π) : System σ π → Prop
  | take {call : Handler.Call} (htask : s.tasks[index]? = some (.waiting call))
      (hfree : s.holder = .nobody) :
      TaskStep index s { s with
        holder := .task index
        tasks := s.tasks.set index (.inside call .check)
        order := s.order ++ [index] }
  | go {call : Handler.Call} {point : Handler.Point}
      (htask : s.tasks[index]? = some (.inside call point)) (hleft : point.result? = none) :
      TaskStep index s (s.put index (.inside call (Handler.step call point s.coordinator).1)
        (Handler.step call point s.coordinator).2)
  | give {call : Handler.Call} {result : Except CoordinatorError Outcome}
      (htask : s.tasks[index]? = some (.inside call (.finished result))) :
      TaskStep index s { s with
        holder := .nobody
        tasks := s.tasks.set index (.returned call result) }
  | other {task task' : Task} {c : Coordinator σ π} (htask : s.tasks[index]? = some task)
      (hmove : task.move s.coordinator = some (task', c)) : TaskStep index s (s.put index task' c)

theorem taskStep_of_stepTask {index : Nat} (h : s.stepTask index = some s') :
    TaskStep index s s' := by
  unfold stepTask at h
  split at h
  · cases h
  · rename_i call htask
    split at h
    · rename_i hfree
      cases h
      exact .take htask hfree
    · cases h
  · rename_i call result htask
    cases h
    exact .give htask
  · rename_i call point hpoint htask
    cases h
    refine .go htask ?_
    cases point with
    | finished result => exact absurd rfl (hpoint result)
    | _ => rfl
  · rename_i task _ _ htask
    obtain ⟨⟨task', c⟩, hmove, hs'⟩ := Option.map_eq_some_iff.1 h
    cases hs'
    exact .other htask hmove

/-- **The moves of the stop**: it takes the lock, gives it back, or changes the coordinator. -/
inductive StopStep (s : System σ π) : System σ π → Prop
  | acquire {rest : List StopMove} (hstop : s.stop = .acquire :: rest) (hfree : s.holder = .nobody) :
      StopStep s { s with holder := .stop, stop := rest }
  | unlock {rest : List StopMove} (hstop : s.stop = .unlock :: rest) :
      StopStep s { s with holder := .nobody, stop := rest }
  | move {move : StopMove} {rest : List StopMove} (hstop : s.stop = move :: rest)
      (hacquire : move ≠ .acquire) (hunlock : move ≠ .unlock) :
      StopStep s { s with coordinator := move.run s.coordinator, stop := rest }

omit [Policy π] in
theorem stopStep_of_stepStop (h : s.stepStop = some s') : StopStep s s' := by
  unfold stepStop at h
  split at h
  · cases h
  · rename_i rest hstop
    split at h
    · rename_i hfree
      cases h
      exact .acquire hstop hfree
    · cases h
  · rename_i rest hstop
    cases h
    exact .unlock hstop
  · rename_i move rest hacquire hunlock hstop
    cases h
    exact .move hstop hacquire hunlock

/-! ## The invariant -/

/-- Where the stop stands, and what that has to do with the lock. -/
inductive StopAt (modules : Nat) : Holder → List StopMove → Prop
  | waiting {holder : Holder} (h : holder ≠ .stop) : StopAt modules holder (StopMove.script modules)
  | locked : StopAt modules .stop (.enter :: .unlock :: StopMove.teardown modules)
  | entered : StopAt modules .stop (.unlock :: StopMove.teardown modules)
  | unlocked {holder : Holder} {rest : List StopMove} (h : holder ≠ .stop)
      (hrest : rest <:+ StopMove.teardown modules) : StopAt modules holder rest

/-- What the invariant says of one call. -/
def TaskSound (s : System σ π) (index : Nat) : Task → Prop
  | .inside _ point =>
    s.holder = .task index ∧ (point.isActive = true → ¬ s.HasEntered) ∧ ¬ point.MetClosed
  | .returned _ (.error error) => error.isClosed = false
  | _ => True

/-- **The invariant** of a system: who is inside holds the lock, nobody is past the check once the
stop has entered, the stores are ready until then, and no closed store has been met. -/
structure Sound (L : MessageStores.Separation σ) (modules : Nat) (s : System σ π) : Prop where
  task {index : Nat} {task : Task} (h : s.tasks[index]? = some task) : s.TaskSound index task
  stopAt : StopAt modules s.holder s.stop
  ready (h : ¬ s.HasEntered) : L.Ready s.coordinator.stores
  terminal (h : s.HasEntered) : s.coordinator.state.isTerminal = true

omit [MessageStores σ] [Policy π] in
theorem taskSound_of_isNew {index : Nat} {task : Task} (h : task.isNew = true) :
    s.TaskSound index task := by
  cases task with
  | inside | returned => cases h
  | _ => trivial

omit [Policy π] in
theorem sound_initial (L : MessageStores.Separation σ) {c : Coordinator σ π}
    (hready : L.Ready c.stores) {calls : List Task} (hnew : ∀ task ∈ calls, task.isNew = true)
    (modules : Nat) : Sound L modules (initial c calls modules) := by
  refine ⟨?_, .waiting (by simp [initial]), fun _ => hready, ?_⟩
  · intro index task h
    exact taskSound_of_isNew (hnew task (List.mem_of_getElem? h))
  · intro h
    exact absurd (by simp [initial, StopMove.script]) h

omit [MessageStores σ] [Policy π] in
theorem TaskSound.of_holder {index : Nat} {task : Task} (h : s.TaskSound index task)
    (hsame : s.holder = .task index → s'.holder = .task index ∧ (s'.HasEntered → s.HasEntered)) :
    s'.TaskSound index task := by
  cases task with
  | inside call point =>
    obtain ⟨hholds, hactive, hopen⟩ := h
    obtain ⟨hholds', hentered⟩ := hsame hholds
    exact ⟨hholds', fun ha he => hactive ha (hentered he), hopen⟩
  | returned call result => cases result <;> exact h
  | _ => trivial

theorem StopAt.of_ne {modules : Nat} {holder holder' : Holder} {rest : List StopMove}
    (h : StopAt modules holder rest) (hne : holder ≠ .stop) (hne' : holder' ≠ .stop) :
    StopAt modules holder' rest := by
  cases h with
  | waiting => exact .waiting hne'
  | unlocked _ hrest => exact .unlocked hne' hrest
  | locked | entered => exact absurd rfl hne

theorem sound_taskStep {L : MessageStores.Separation σ} {modules index : Nat}
    (h : Sound L modules s) (hstep : TaskStep index s s') : Sound L modules s' := by
  cases hstep with
  | @take call htask hfree =>
    -- The lock was free, so no other call is inside.
    refine ⟨?_, h.stopAt.of_ne (by simp [hfree]) (by simp), h.ready, h.terminal⟩
    intro j other hj
    rcases eq_of_getElem?_set hj with ⟨rfl, rfl⟩ | ⟨-, hj⟩
    · exact ⟨rfl, fun ha => (by cases ha), Handler.not_metClosed_of_error? rfl⟩
    · exact (h.task hj).of_holder fun hholds => by rw [hfree] at hholds; cases hholds
  | @go call point htask hleft =>
    obtain ⟨hholds, hactive, hopen⟩ := h.task htask
    refine ⟨?_, h.stopAt, fun he => Handler.ready_step point (h.ready he), ?_⟩
    · intro j other hj
      rcases eq_of_getElem?_set hj with ⟨rfl, rfl⟩ | ⟨-, hj⟩
      · refine ⟨hholds, ?_, Handler.not_metClosed_step (fun ha => h.ready (hactive ha)) hopen⟩
        intro ha he
        exact hactive (Handler.isActive_of_step (h.terminal he) hleft ha) he
      · exact (h.task hj).of_holder fun hholds' => ⟨hholds', id⟩
    · intro he
      have hstate := h.terminal he
      show (Handler.step call point s.coordinator).2.state.isTerminal = true
      rw [Handler.step_state_of_terminal point hstate]
      exact hstate
  | @give call result htask =>
    obtain ⟨hholds, -, hopen⟩ := h.task htask
    refine ⟨?_, h.stopAt.of_ne (by simp [hholds]) (by simp), h.ready, h.terminal⟩
    intro j other hj
    rcases eq_of_getElem?_set hj with ⟨rfl, rfl⟩ | ⟨hne, hj⟩
    · cases result with
      | ok => trivial
      | error error =>
        show error.isClosed = false
        cases hclosed : error.isClosed with
        | false => rfl
        | true => exact absurd ⟨error, rfl, hclosed⟩ hopen
    · refine (h.task hj).of_holder fun hholds' => ?_
      rw [hholds] at hholds'
      cases hholds'
      exact absurd rfl hne
  | @other task task' c htask hmove =>
    refine ⟨?_, h.stopAt, fun he => Task.ready_move hmove (h.ready he), ?_⟩
    · intro j other hj
      rcases eq_of_getElem?_set hj with ⟨rfl, rfl⟩ | ⟨-, hj⟩
      · have hother := (Task.isHandler_of_move hmove).2
        cases other with
        | inside | returned | waiting => cases hother
        | _ => trivial
      · exact (h.task hj).of_holder fun hholds' => ⟨hholds', id⟩
    · intro he
      have hstate := h.terminal he
      show c.state.isTerminal = true
      rw [Task.state_move_of_terminal hmove hstate]
      exact hstate

theorem ne_of_mem_teardown {modules : Nat} {move : StopMove}
    (h : move ∈ StopMove.teardown modules) : move ≠ .acquire ∧ move ≠ .enter ∧ move ≠ .unlock := by
  simp only [StopMove.teardown, List.mem_cons, List.mem_append, List.mem_replicate,
    List.not_mem_nil] at h
  rcases h with rfl | (⟨-, rfl⟩ | ⟨-, rfl⟩) | rfl | rfl | rfl | rfl | rfl | h
  · simp
  · simp
  · simp
  · simp
  · simp
  · simp
  · simp
  · simp
  · cases h

theorem StopAt.cons {modules : Nat} {holder : Holder} {move : StopMove} {rest : List StopMove}
    (h : StopAt modules holder (move :: rest)) :
    (holder ≠ .stop ∧ move = .acquire ∧ rest = .enter :: .unlock :: StopMove.teardown modules) ∨
      (holder = .stop ∧ move = .enter ∧ rest = .unlock :: StopMove.teardown modules) ∨
      (holder = .stop ∧ move = .unlock ∧ rest = StopMove.teardown modules) ∨
      (holder ≠ .stop ∧ (move :: rest) <:+ StopMove.teardown modules) := by
  generalize hall : move :: rest = all at h
  cases h with
  | waiting hne =>
    cases hall
    exact .inl ⟨hne, rfl, rfl⟩
  | locked =>
    cases hall
    exact .inr (.inl ⟨rfl, rfl, rfl⟩)
  | entered =>
    cases hall
    exact .inr (.inr (.inl ⟨rfl, rfl, rfl⟩))
  | unlocked hne hrest => exact .inr (.inr (.inr ⟨hne, hrest⟩))

theorem isTerminal_run {σ π : Type} [MessageStores σ] {move : StopMove} {c : Coordinator σ π}
    (h : c.state.isTerminal = true) : (move.run c).state.isTerminal = true := by
  cases move with
  | enter | finish => rfl
  | _ => exact h

omit [Policy π] in
theorem sound_stopStep {L : MessageStores.Separation σ} {modules : Nat}
    (h : Sound L modules s) (hstep : StopStep s s') : Sound L modules s' := by
  have hat := h.stopAt
  have hteardown : StopMove.enter ∉ StopMove.teardown modules :=
    fun hmem => (ne_of_mem_teardown hmem).2.1 rfl
  -- Of the four places where the stop may stand, one has this move ahead of it.
  cases hstep with
  | @acquire rest hstop hfree =>
    rw [hstop, hfree] at hat
    rcases hat.cons with ⟨-, -, rfl⟩ | ⟨hheld, -⟩ | ⟨hheld, -⟩ | ⟨-, hrest⟩
    · have hbefore : ¬ s.HasEntered := fun he => he (by rw [hstop]; simp)
      refine ⟨?_, .locked, fun _ => h.ready hbefore, fun he => absurd (by simp) he⟩
      intro j other hj
      exact (h.task hj).of_holder fun hholds => by rw [hfree] at hholds; cases hholds
    · cases hheld
    · cases hheld
    · exact absurd rfl (ne_of_mem_teardown (hrest.subset (List.mem_cons_self ..))).1
  | @unlock rest hstop =>
    rw [hstop] at hat
    rcases hat.cons with ⟨-, hmove, -⟩ | ⟨-, hmove, -⟩ | ⟨hheld, -, rfl⟩ | ⟨-, hrest⟩
    · cases hmove
    · cases hmove
    · have hentered : s.HasEntered := by
        show StopMove.enter ∉ s.stop
        simp [hstop, hteardown]
      refine ⟨?_, .unlocked (by simp) List.suffix_rfl, fun he => absurd hteardown he,
        fun _ => h.terminal hentered⟩
      intro j other hj
      exact (h.task hj).of_holder fun hholds => by rw [hheld] at hholds; cases hholds
    · exact absurd rfl (ne_of_mem_teardown (hrest.subset (List.mem_cons_self ..))).2.2
  | @move move rest hstop hacquire hunlock =>
    rw [hstop] at hat
    rcases hat.cons with ⟨-, hmove, -⟩ | ⟨hheld, rfl, rfl⟩ | ⟨-, hmove, -⟩ | ⟨hne, hrest⟩
    · exact absurd hmove hacquire
    · have hentered : StopMove.enter ∉ StopMove.unlock :: StopMove.teardown modules := by
        simp [hteardown]
      refine ⟨?_, hheld ▸ .entered, fun he => absurd hentered he, fun _ => rfl⟩
      intro j other hj
      exact (h.task hj).of_holder fun hholds => by rw [hheld] at hholds; cases hholds
    · exact absurd hmove hunlock
    · have hentered : s.HasEntered := by
        show StopMove.enter ∉ s.stop
        rw [hstop]
        exact fun hmem => (ne_of_mem_teardown (hrest.subset hmem)).2.1 rfl
      have hentered' : StopMove.enter ∉ rest :=
        fun hmem => (ne_of_mem_teardown (hrest.subset (List.mem_cons_of_mem _ hmem))).2.1 rfl
      refine ⟨?_, .unlocked hne ((List.suffix_cons move rest).trans hrest),
        fun he => absurd hentered' he, fun _ => isTerminal_run (h.terminal hentered)⟩
      intro j other hj
      exact (h.task hj).of_holder fun hholds => ⟨hholds, fun _ => hentered⟩

theorem sound_step {L : MessageStores.Separation σ} {modules : Nat} {who : Who}
    (h : Sound L modules s) (hstep : s.step who = some s') : Sound L modules s' := by
  cases who with
  | task index => exact sound_taskStep h (taskStep_of_stepTask hstep)
  | stop => exact sound_stopStep h (stopStep_of_stepStop hstep)

/-- **A whole run** keeps the invariant. -/
theorem sound_run {L : MessageStores.Separation σ} {modules : Nat} {start : System σ π}
    {moves : List Who} (h : Sound L modules start) (hrun : Run start moves s) :
    Sound L modules s := by
  induction hrun with
  | nil => exact h
  | snoc _ hstep ih => exact sound_step ih hstep

end System

end Replica
