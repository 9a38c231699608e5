/-
The lifecycle only moves forward, and in step with the trigger.

`System.Affects` says once what an occurrence does to the trigger and to the lifecycle
state: it offers a reason, writes the state, or touches neither. A request for a
shutdown does the first and the second in two moves, and anything may come in
between. The invariant `System.Forward` ties the two together: what a call has still to
note was accepted, and what it has noted stays noted. From it: no state is
left for an earlier one (`rank_occur`), and an occurrence adds the reason it has accepted
to the one that the trigger keeps, if it is the first (`reason_occur`).
-/
import Replica.Proofs.Coordinator.Failure

namespace Replica

namespace Lifecycle

/-- How far a coordinator in this state has come. -/
def rank (state : Lifecycle) : Nat := all.idxOf state

theorem rank_le_stopped (state : Lifecycle) : state.rank ≤ stopped.rank := by
  cases state <;> decide

theorem rank_le_stopping {state : Lifecycle} (h : state ≠ stopped) : state.rank ≤ stopping.rank := by
  cases state with
  | stopped => exact absurd rfl h
  | _ => decide

end Lifecycle

namespace Coordinator

variable {σ π : Type} (c : Coordinator σ π)

theorem rank_noteFatal : c.state.rank ≤ c.noteFatal.state.rank := by
  unfold noteFatal
  split
  · rename_i hearly
    show c.state.rank ≤ Lifecycle.fatalShutdown.rank
    rcases hearly with hstate | hstate <;> rw [hstate] <;> decide
  · exact Nat.le_refl _

theorem rank_advance : c.state.rank ≤ (c.advance .starting .running).state.rank := by
  unfold advance
  split
  · rename_i hstate
    show c.state.rank ≤ Lifecycle.running.rank
    rw [hstate]
    decide
  · exact Nat.le_refl _

end Coordinator

namespace Trigger

theorem reason_fire (trigger : Trigger) (reason : ShutdownReason) :
    (trigger.fire reason).2.reason.toList =
      trigger.reason.toList ++ if (trigger.fire reason).1 then [reason] else [] := by
  obtain ⟨before, announced⟩ := trigger
  cases before <;> rfl

end Trigger

namespace Task

/-- The reason a call is about to offer to the trigger. -/
def offer? : Task → Option ShutdownReason
  | inside _ (.escalate error) | shutdown error .fire => some (.fatal error)
  | _ => none

/-- The error of a call that knows it was accepted. -/
def accepted? : Task → Option CoordinatorError
  | inside _ (.note error) | shutdown error .note | shutdown error (.returned true) => some error
  | _ => none

theorem accepted?_of_isNew {task : Task} (h : task.isNew = true) : task.accepted? = none := by
  cases task with
  | inside => cases h
  | shutdown error stage =>
    cases stage with
    | fire => rfl
    | note | returned => cases h
  | _ => rfl

/-- A call that has just offered an error knows that it was accepted only if it was. -/
theorem reason_of_accepted {α : Type} {noting returned : α} {trigger : Trigger}
    {error error' : CoordinatorError} (task : α → Task)
    (hnoting : (task noting).accepted? = some error') (hreturned : (task returned).accepted? = none)
    (h : (task (if (trigger.fire (.fatal error')).1 then noting else returned)).accepted? =
      some error) : (trigger.fire (.fatal error')).2.reason = some (.fatal error) := by
  split at h
  · rename_i hfire
    rw [hnoting] at h
    cases h
    exact Trigger.reason_of_fire hfire
  · rw [hreturned] at h
    cases h

end Task

namespace System

variable {σ π : Type} [MessageStores σ] [Policy π] {s s' : System σ π} {modules : Nat}

/-- The reason an occurrence offers to the trigger, if it offers one. -/
def offer? (s : System σ π) : Occurrence → Option ShutdownReason
  | .signal signal => some (.signal signal)
  | .move (.task index) => (s.tasks[index]?).bind Task.offer?
  | .move .stop | .started => none

/-- The reason an occurrence offers and that is accepted, if one is. -/
def accepts (s : System σ π) (event : Occurrence) : List ShutdownReason :=
  match s.offer? event with
  | some reason => if (s.coordinator.trigger.fire reason).1 then [reason] else []
  | none => []

/-! ## What an occurrence can do -/

/-- **What an occurrence does to the trigger and the state**: it touches neither, fires the trigger,
or writes the state. -/
inductive Affects (s : System σ π) (event : Occurrence) (s' : System σ π) : Prop
  | quiet (hoffer : s.offer? event = none)
      (htrigger : s'.coordinator.trigger = s.coordinator.trigger)
      (hstate : s'.coordinator.state = s.coordinator.state)
  | offer {reason : ShutdownReason} (hoffer : s.offer? event = some reason)
      (htrigger : s'.coordinator.trigger = (s.coordinator.trigger.fire reason).2)
      (hstate : s'.coordinator.state = s.coordinator.state)
  | note {index : Nat} {task : Task} {error : CoordinatorError} (hoffer : s.offer? event = none)
      (htrigger : s'.coordinator.trigger = s.coordinator.trigger)
      (hstate : s'.coordinator.state = s.coordinator.noteFatal.state)
      (htask : s.tasks[index]? = some task) (haccepted : task.accepted? = some error)
  | started (hoffer : s.offer? event = none)
      (htrigger : s'.coordinator.trigger = s.coordinator.trigger)
      (hstate : s'.coordinator.state = (s.coordinator.advance .starting .running).state)
      (hevent : event = .started)
  | enter (hoffer : s.offer? event = none)
      (htrigger : s'.coordinator.trigger = s.coordinator.trigger)
      (hstate : s'.coordinator.state = .stopping) (hstop : s.stop = .enter :: s'.stop)
  | finish (hoffer : s.offer? event = none)
      (htrigger : s'.coordinator.trigger = s.coordinator.trigger)
      (hstate : s'.coordinator.state = .stopped) (hstop : s.stop = .finish :: s'.stop)

theorem affects_taskStep {index : Nat} (h : TaskStep index s s') :
    Affects s (.move (.task index)) s' := by
  have hoffer {task : Task} (htask : s.tasks[index]? = some task) :
      s.offer? (.move (.task index)) = task.offer? := by rw [offer?, htask, Option.bind_some]
  cases h with
  | take htask | give htask => exact .quiet (hoffer htask) rfl rfl
  | @go call point htask hleft =>
    by_cases hescalate : ∃ error, point = .escalate error
    · obtain ⟨error, rfl⟩ := hescalate
      exact .offer (hoffer htask) rfl rfl
    · have hnone : (Task.inside call point).offer? = none := by
        cases point with
        | escalate error => exact absurd ⟨error, rfl⟩ hescalate
        | _ => rfl
      rcases Handler.step_cases call s.coordinator hleft with
        herror | ⟨error, rfl⟩ | ⟨-, -, htrigger, hstate⟩
      · exact absurd herror hescalate
      · exact .note (hoffer htask) s.coordinator.trigger_noteFatal rfl htask rfl
      · exact .quiet ((hoffer htask).trans hnone) htrigger hstate
  | @other task task' c htask hmove =>
    cases Task.moves_of_move hmove with
    | dequeue =>
      refine .quiet (hoffer htask) ?_ ?_
      · show s.coordinator.dequeue.2.trigger = _
        rw [Coordinator.dequeue_eq]
      · show s.coordinator.dequeue.2.state = _
        rw [Coordinator.dequeue_eq]
    | fire error => exact .offer (hoffer htask) rfl rfl
    | note error => exact .note (hoffer htask) s.coordinator.trigger_noteFatal rfl htask rfl

omit [Policy π] in
theorem affects_stopStep (h : StopStep s s') : Affects s (.move .stop) s' := by
  cases h with
  | acquire | unlock => exact .quiet rfl rfl rfl
  | @move move rest hstop =>
    cases move with
    | enter => exact .enter rfl rfl rfl hstop
    | finish => exact .finish rfl rfl rfl hstop
    | _ => exact .quiet rfl rfl rfl

theorem affects_occur {event : Occurrence} (h : s.occur event = some s') : Affects s event s' := by
  cases event with
  | move who =>
    cases who with
    | task index => exact affects_taskStep (taskStep_of_stepTask h)
    | stop => exact affects_stopStep (stopStep_of_stepStop h)
  | signal signal =>
    cases h
    exact .offer rfl rfl rfl
  | started =>
    cases h
    exact .started rfl (s.coordinator.trigger_advance ..) rfl rfl

theorem reason_occur {event : Occurrence} (h : s.occur event = some s') :
    s'.coordinator.trigger.reason.toList =
      s.coordinator.trigger.reason.toList ++ s.accepts event := by
  cases affects_occur h with
  | quiet hoffer htrigger | note hoffer htrigger | started hoffer htrigger
  | enter hoffer htrigger | finish hoffer htrigger =>
    rw [htrigger, accepts, hoffer]
    exact (List.append_nil _).symm
  | offer hoffer htrigger => rw [htrigger, Trigger.reason_fire, accepts, hoffer]

theorem reason_occur_of_some {event : Occurrence} (h : s.occur event = some s')
    {reason : ShutdownReason} (hreason : s.coordinator.trigger.reason = some reason) :
    s'.coordinator.trigger.reason = some reason := by
  have hlist := reason_occur h
  rw [hreason] at hlist
  cases hreason' : s'.coordinator.trigger.reason with
  | none =>
    rw [hreason'] at hlist
    cases hlist
  | some reason' =>
    rw [hreason'] at hlist
    exact congrArg some (List.cons.inj hlist).1

omit [Policy π] in
theorem stop_stopStep (h : StopStep s s') : ∃ move, s.stop = move :: s'.stop := by
  cases h with
  | acquire hstop | unlock hstop | move hstop => exact ⟨_, hstop⟩

theorem stop_taskStep {index : Nat} (h : TaskStep index s s') : s'.stop = s.stop := by
  cases h with
  | take | go | give | other => rfl

theorem stop_occur {event : Occurrence} (h : s.occur event = some s') :
    s'.stop = s.stop ∨ ∃ move, s.stop = move :: s'.stop := by
  cases event with
  | move who =>
    cases who with
    | task index => exact .inl (stop_taskStep (taskStep_of_stepTask h))
    | stop => exact .inr (stop_stopStep (stopStep_of_stepStop h))
  | signal | started =>
    cases h
    exact .inl rfl

/-! ## The invariant -/

/-- **The state keeps step with the trigger**: the trigger keeps the error of every call that knows it
was accepted; what a request has noted is noted; the state is that of a fatal shutdown only behind a
fatal reason; and a coordinator that is stopped has no move of its stop left. -/
structure Forward (modules : Nat) (s : System σ π) : Prop where
  exclusive : Exclusive modules s
  heeds : Heeds s
  accepted {index : Nat} {task : Task} {error : CoordinatorError} (h : s.tasks[index]? = some task)
    (haccepted : task.accepted? = some error) : s.coordinator.trigger.reason = some (.fatal error)
  noted {index : Nat} {error : CoordinatorError}
    (h : s.tasks[index]? = some (.shutdown error (.returned true))) :
    s.coordinator.state.mayRun = false
  fatal (h : s.coordinator.state = .fatalShutdown) :
    ∃ error, s.coordinator.trigger.reason = some (.fatal error)
  ended (h : s.coordinator.state = .stopped) : s.stop = []

omit [MessageStores σ] [Policy π] in
theorem forward_initial {c : Coordinator σ π} (harmed : c.trigger = .armed)
    (hstate : c.state = .starting) {calls : List Task} (hnew : ∀ task ∈ calls, task.isNew = true)
    (modules : Nat) : Forward modules (initial c calls modules) where
  exclusive := exclusive_initial c hnew modules
  heeds := heeds_initial harmed hnew modules
  accepted h haccepted := by
    have hnone := Task.accepted?_of_isNew (hnew _ (List.mem_of_getElem? h))
    rw [hnone] at haccepted
    cases haccepted
  noted h := by
    have hnone := Task.accepted?_of_isNew (hnew _ (List.mem_of_getElem? h))
    cases hnone
  fatal h := absurd (hstate.symm.trans h) nofun
  ended h := absurd (hstate.symm.trans h) nofun

theorem accepted_taskStep {index : Nat} (h : Forward modules s) (hstep : TaskStep index s s')
    (hkeeps : ∀ {reason}, s.coordinator.trigger.reason = some reason →
      s'.coordinator.trigger.reason = some reason) {j : Nat} {task : Task} {error : CoordinatorError}
    (hj : s'.tasks[j]? = some task) (haccepted : task.accepted? = some error) :
    s'.coordinator.trigger.reason = some (.fatal error) := by
  cases hstep with
  | take | give =>
    rcases eq_of_getElem?_set hj with ⟨-, rfl⟩ | ⟨-, hj⟩
    · cases haccepted
    · exact hkeeps (h.accepted hj haccepted)
  | @go call point htask hleft =>
    rcases eq_of_getElem?_set hj with ⟨-, rfl⟩ | ⟨-, hj⟩
    · rcases Handler.step_cases call s.coordinator hleft with
        ⟨error', rfl⟩ | ⟨error', rfl⟩ | ⟨-, hoffered, -, -⟩
      · -- it has just fired the trigger, and goes on to its note if it was accepted
        exact Task.reason_of_accepted (.inside call) rfl rfl haccepted
      · cases haccepted
      · exfalso
        generalize (Handler.step call point s.coordinator).1 = next at hoffered haccepted
        cases next with
        | note => cases hoffered
        | _ => cases haccepted
    · exact hkeeps (h.accepted hj haccepted)
  | @other task' task'' c htask hmove =>
    rcases eq_of_getElem?_set hj with ⟨-, rfl⟩ | ⟨-, hj⟩
    · cases Task.moves_of_move hmove with
      | dequeue => cases haccepted
      | fire error' => exact Task.reason_of_accepted (.shutdown error') rfl rfl haccepted
      | note error' =>
        cases haccepted
        exact hkeeps (h.accepted htask rfl)
    · exact hkeeps (h.accepted hj haccepted)

theorem noted_taskStep {index : Nat} (h : Forward modules s) (hstep : TaskStep index s s') {j : Nat}
    {error : CoordinatorError} (hj : s'.tasks[j]? = some (.shutdown error (.returned true))) :
    s'.coordinator.state.mayRun = false := by
  have hclosed := fun hclosed : s.coordinator.state.mayRun = false => mayRun_taskStep hclosed hstep
  cases hstep with
  | take | give | go =>
    rcases eq_of_getElem?_set hj with ⟨-, hmoved⟩ | ⟨-, hj⟩
    · cases hmoved
    · exact hclosed (h.noted hj)
  | @other task task' c htask hmove =>
    rcases eq_of_getElem?_set hj with ⟨-, hmoved⟩ | ⟨-, hj⟩
    · cases Task.moves_of_move hmove with
      | dequeue => cases hmoved
      | note => exact s.coordinator.mayRun_noteFatal
      | fire error' => split at hmoved <;> cases hmoved
    · exact hclosed (h.noted hj)

theorem tasks_occur {event : Occurrence} (h : s.occur event = some s') :
    s'.tasks = s.tasks ∨ ∃ index, TaskStep index s s' := by
  cases event with
  | move who =>
    cases who with
    | task index => exact .inr ⟨index, taskStep_of_stepTask h⟩
    | stop =>
      cases stopStep_of_stepStop h with
      | acquire | unlock | move => exact .inl rfl
  | signal | started =>
    cases h
    exact .inl rfl

theorem stop_of_finish {holder : Holder} {rest : List StopMove}
    (h : StopAt modules holder (.finish :: rest)) : rest = [] := by
  rcases h.cons with ⟨-, hmove, -⟩ | ⟨-, hmove, -⟩ | ⟨-, hmove, -⟩ | ⟨-, before, hall⟩
  · cases hmove
  · cases hmove
  · cases hmove
  · have hfront : StopMove.finish ∉ StopMove.silence :: (List.replicate modules .askModule ++
        List.replicate modules .awaitModule ++ [.closeQueue, .closeHistory, .closeState, .release]) := by
      simp [List.mem_replicate]
    rcases List.eq_nil_or_concat rest with hnil | ⟨rest', last, rfl⟩
    · exact hnil
    · refine absurd ?_ hfront
      have hsplit : (before ++ .finish :: rest') ++ [last] =
          (StopMove.silence :: (List.replicate modules .askModule ++
            List.replicate modules .awaitModule ++
              [.closeQueue, .closeHistory, .closeState, .release])) ++ [.finish] := by
        simpa [StopMove.teardown] using hall
      rw [← (List.append_inj' hsplit rfl).1]
      simp

/-- **One occurrence** keeps the state in step with the trigger. -/
theorem Forward.occur {event : Occurrence} (h : Forward modules s) (hstep : s.occur event = some s') :
    Forward modules s' := by
  have hkeeps : ∀ {reason}, s.coordinator.trigger.reason = some reason →
      s'.coordinator.trigger.reason = some reason := reason_occur_of_some hstep
  refine ⟨exclusive_occur h.exclusive hstep, heeds_occur h.exclusive h.heeds hstep, ?_, ?_, ?_, ?_⟩
  · intro j task error hj haccepted
    rcases tasks_occur hstep with htasks | ⟨index, htask⟩
    · rw [htasks] at hj
      exact hkeeps (h.accepted hj haccepted)
    · exact accepted_taskStep h htask hkeeps hj haccepted
  · intro j error hj
    rcases tasks_occur hstep with htasks | ⟨index, htask⟩
    · rw [htasks] at hj
      exact mayRun_occur (h.noted hj) hstep
    · exact noted_taskStep h htask hj
  · intro hfatal
    have hbefore (hstate : s.coordinator.state = .fatalShutdown) :
        ∃ error, s'.coordinator.trigger.reason = some (.fatal error) :=
      (h.fatal hstate).imp fun _ => hkeeps
    cases affects_occur hstep with
    | quiet _ _ hstate | offer _ _ hstate => exact hbefore (hstate.symm.trans hfatal)
    | note _ _ _ htask haccepted => exact ⟨_, hkeeps (h.accepted htask haccepted)⟩
    | started _ _ hstate =>
      rw [hstate, Coordinator.advance] at hfatal
      split at hfatal
      · cases hfatal
      · exact hbefore hfatal
    | enter _ _ hstate | finish _ _ hstate => cases hstate.symm.trans hfatal
  · intro hended
    have hbefore (hstate : s.coordinator.state = .stopped) : s'.stop = [] := by
      have hnil := h.ended hstate
      rcases stop_occur hstep with hsame | ⟨move, hmove⟩
      · exact hsame.trans hnil
      · rw [hnil] at hmove
        cases hmove
    cases affects_occur hstep with
    | quiet _ _ hstate | offer _ _ hstate => exact hbefore (hstate.symm.trans hended)
    | note _ _ hstate =>
      rw [hstate, Coordinator.noteFatal] at hended
      split at hended
      · cases hended
      · exact hbefore hended
    | started _ _ hstate =>
      rw [hstate, Coordinator.advance] at hended
      split at hended
      · cases hended
      · exact hbefore hended
    | enter _ _ hstate => cases hstate.symm.trans hended
    | finish _ _ _ hstop =>
      have hat := h.exclusive.stopAt
      rw [hstop] at hat
      exact stop_of_finish hat

/-! ## No way back -/

/-- **No state is left for an earlier one.** -/
theorem rank_occur {event : Occurrence} (h : Forward modules s) (hstep : s.occur event = some s') :
    s.coordinator.state.rank ≤ s'.coordinator.state.rank := by
  cases affects_occur hstep with
  | quiet _ _ hstate | offer _ _ hstate => exact Nat.le_of_eq (by rw [hstate])
  | note _ _ hstate =>
    rw [hstate]
    exact Coordinator.rank_noteFatal _
  | started _ _ hstate =>
    rw [hstate]
    exact Coordinator.rank_advance _
  | enter _ _ hstate hstop =>
    have hleft : s.coordinator.state ≠ .stopped := fun hended => by
      rw [h.ended hended] at hstop
      cases hstop
    rw [hstate]
    exact Lifecycle.rank_le_stopping hleft
  | finish _ _ hstate =>
    rw [hstate]
    exact Lifecycle.rank_le_stopped _

/-- **Running is entered when the start ends**, and from starting only. -/
theorem starting_of_running {event : Occurrence} (hstep : s.occur event = some s')
    (hrunning : s'.coordinator.state = .running) (hbefore : s.coordinator.state ≠ .running) :
    event = .started ∧ s.coordinator.state = .starting := by
  cases affects_occur hstep with
  | quiet _ _ hstate | offer _ _ hstate => exact absurd (hstate.symm.trans hrunning) hbefore
  | note _ _ hstate =>
    have hclosed := s.coordinator.mayRun_noteFatal
    rw [← hstate, hrunning] at hclosed
    cases hclosed
  | started _ _ hstate hevent =>
    rw [hstate, Coordinator.advance] at hrunning
    split at hrunning
    · rename_i hstarting
      exact ⟨hevent, hstarting⟩
    · exact absurd hrunning hbefore
  | enter _ _ hstate | finish _ _ hstate => cases hstate.symm.trans hrunning

end System

end Replica
