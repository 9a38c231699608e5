/-
Courses: runs in which signals arrive and the start ends at any time.

Whoever fires the trigger notes it in the lifecycle state, and a state that has
been noted never accepts messages again (`mayRun_occur`). A signal fires the
trigger and notes nothing. One handler call at most is inside, as in a run
(`exclusive_occur`).
-/
import Replica.Proofs.Coordinator.Exclusion

namespace Replica

/-! ## The trigger and the lifecycle state -/

/-- Whether a coordinator in this state accepts messages or may do so later. -/
def Lifecycle.mayRun (state : Lifecycle) : Bool := state = starting || state = running

theorem Lifecycle.acceptsMessages_of_not_mayRun {state : Lifecycle} (h : state.mayRun = false) :
    state.acceptsMessages = false := by
  cases state <;> first | rfl | cases h

theorem Trigger.reason_of_fire {trigger : Trigger} {reason : ShutdownReason}
    (h : (trigger.fire reason).1 = true) : (trigger.fire reason).2.reason = some reason := by
  obtain ⟨before, announced⟩ := trigger
  cases before with
  | none => rfl
  | some first => cases h

namespace Coordinator

variable {σ π : Type}

theorem offer_cases (c : Coordinator σ π) (error : CoordinatorError) :
    (c.isShuttingDown = true ∧ c.offer error = (false, c)) ∨
      c.isShuttingDown = false ∧ (c.offer error).1 = true ∧
        (c.offer error).2.isShuttingDown = true ∧ (c.offer error).2.state = c.state := by
  cases hreason : c.trigger.reason with
  | some reason =>
    have hfired : c.isShuttingDown = true := by rw [isShuttingDown, Trigger.isFired, hreason]; rfl
    refine .inl ⟨hfired, ?_⟩
    simp only [offer, Trigger.fire, Trigger.accept, hreason]
  | none =>
    have harmed : c.isShuttingDown = false := by rw [isShuttingDown, Trigger.isFired, hreason]; rfl
    refine .inr ⟨harmed, ?_⟩
    simp only [offer, Trigger.fire, Trigger.accept, hreason]
    exact ⟨trivial, rfl, trivial⟩

theorem receive_cases (c : Coordinator σ π) (signal : ShutdownSignal) :
    c.receive signal = c ∨
      (c.receive signal).trigger.reason = some (.signal signal) ∧
        (c.receive signal).state = c.state := by
  cases hreason : c.trigger.reason with
  | some reason =>
    refine .inl ?_
    simp only [receive, Trigger.fire, Trigger.accept, hreason]
  | none =>
    refine .inr ?_
    simp only [receive, Trigger.fire, Trigger.accept, hreason]
    exact ⟨rfl, trivial⟩

theorem trigger_noteFatal (c : Coordinator σ π) : c.noteFatal.trigger = c.trigger := by
  unfold noteFatal
  split <;> rfl

theorem mayRun_noteFatal (c : Coordinator σ π) : c.noteFatal.state.mayRun = false := by
  unfold noteFatal
  split
  · rfl
  · rename_i hstate
    simpa [Lifecycle.mayRun] using hstate

theorem advance_of_not_mayRun {c : Coordinator σ π} (h : c.state.mayRun = false) :
    c.advance .starting .running = c := by
  have hstate : c.state ≠ .starting := by
    intro hstarting
    rw [hstarting] at h
    cases h
  rw [advance, if_neg hstate]

theorem trigger_advance (c : Coordinator σ π) (source next : Lifecycle) :
    (c.advance source next).trigger = c.trigger := by
  unfold advance
  split <;> rfl

end Coordinator

/-- Whether it is the failure of a message: of the policy, of a fold or of a store. -/
def CoordinatorError.isFailure : CoordinatorError → Bool
  | store _ | policy .. | fold .. => true
  | _ => false

/-- Whether a call has offered its failure to the trigger. -/
def Handler.Point.hasOffered : Handler.Point → Bool
  | note _ => true
  | finished (.error error) => error.isFailure
  | _ => false

namespace Handler

variable {σ π : Type} [MessageStores σ] [Policy π] {call : Call} {c : Coordinator σ π}

/-- **What a move does to the trigger and the state**: it offers a failure, or notes one, or touches
neither. -/
theorem step_cases (call : Call) (c : Coordinator σ π) {point : Point} (h : point.result? = none) :
    (∃ error, point = .escalate error) ∨ (∃ error, point = .note error) ∨
      (point.hasOffered = false ∧ (step call point c).1.hasOffered = false ∧
        (step call point c).2.trigger = c.trigger ∧ (step call point c).2.state = c.state) := by
  cases point with
  | finished result => cases h
  | escalate error => exact .inl ⟨error, rfl⟩
  | note error => exact .inr (.inl ⟨error, rfl⟩)
  | check =>
    rw [step_check]
    refine .inr (.inr ⟨rfl, ?_, rfl, rfl⟩)
    unfold afterCheck
    split
    · cases call.origin <;> rfl
    · rfl
  | consult =>
    rw [step_consult]
    refine .inr (.inr ⟨rfl, ?_, rfl, rfl⟩)
    unfold afterConsult
    split
    · rfl
    · dsimp only
      split <;> rfl
  | process =>
    refine .inr (.inr ⟨rfl, ?_, rfl, rfl⟩)
    unfold step
    dsimp only
    split <;> rfl
  | fold =>
    rw [step_fold]
    refine .inr (.inr ⟨rfl, ?_, rfl, rfl⟩)
    unfold afterFold
    split
    · cases call.origin <;> rfl
    · rfl
  | enqueue digest =>
    rw [step_enqueue]
    refine .inr (.inr ⟨rfl, ?_, rfl, rfl⟩)
    unfold afterEnqueue
    split <;> rfl
  | push digest =>
    rw [step_push]
    refine .inr (.inr ⟨rfl, ?_, rfl, rfl⟩)
    unfold afterPush
    split <;> rfl

theorem step_check_of_refuses (call : Call) (h : c.state.acceptsMessages = false) :
    step call .check c = (.finished (.error (.notRunning c.state)), c) := by
  rw [step_check, afterCheck, h]
  rfl

theorem handle_of_refuses (call : Call) (h : c.state.acceptsMessages = false) :
    handle call c = (.error (.notRunning c.state), c) := by
  rw [handle, run]
  simp only [Point.result?, step_check_of_refuses call h]
  rw [run]
  rfl

end Handler

/-! ## Courses -/

/-- What happens to a system: somebody makes a move, a signal arrives, or the start ends. -/
inductive Occurrence
  | move (who : Who)
  | signal (signal : ShutdownSignal)
  /-- The modules have started: messages are accepted unless a shutdown was noted before. -/
  | started
  deriving DecidableEq, Repr, Inhabited

namespace System

variable {σ π : Type} [MessageStores σ] [Policy π]

/-- What an occurrence makes of a system; none if somebody moves who has to wait. -/
def occur : Occurrence → System σ π → Option (System σ π)
  | .move who, s => s.step who
  | .signal signal, s => some { s with coordinator := s.coordinator.receive signal }
  | .started, s => some { s with coordinator := s.coordinator.advance .starting .running }

/-- **A course**: occurrences in any order. -/
inductive Course (start : System σ π) : List Occurrence → System σ π → Prop
  | nil : Course start [] start
  | snoc {events : List Occurrence} {s s' : System σ π} {event : Occurrence}
      (before : Course start events s) (last : s.occur event = some s') :
      Course start (events ++ [event]) s'

/-- Where occurrences lead; none if somebody moves who has to wait. -/
def follow (start : System σ π) (events : List Occurrence) : Option (System σ π) :=
  events.foldlM (fun s event => s.occur event) start

theorem course_of_follow {start s t : System σ π} {events events' : List Occurrence}
    (hbefore : Course start events s) (h : s.follow events' = some t) :
    Course start (events ++ events') t := by
  induction events' generalizing events s with
  | nil =>
    cases h
    simpa using hbefore
  | cons event events' ih =>
    rw [follow, List.foldlM_cons] at h
    obtain ⟨s', hstep, h⟩ := Option.bind_eq_some_iff.1 h
    have hcourse := ih (hbefore.snoc hstep) h
    rwa [List.append_assoc] at hcourse

/-! ## One handler call inside at most -/

/-- **Who is inside holds the lock**, and the stop gives back no lock but its own. -/
structure Exclusive (modules : Nat) (s : System σ π) : Prop where
  inside {index : Nat} {call : Handler.Call} {point : Handler.Point}
    (h : s.tasks[index]? = some (.inside call point)) : s.holder = .task index
  stopAt : StopAt modules s.holder s.stop

variable {s s' : System σ π} {modules : Nat}

omit [MessageStores σ] [Policy π] in
theorem exclusive_initial (c : Coordinator σ π) {calls : List Task}
    (hnew : ∀ task ∈ calls, task.isNew = true) (modules : Nat) :
    Exclusive modules (initial c calls modules) := by
  refine ⟨?_, .waiting (by simp [initial])⟩
  intro index call point h
  have hinside := hnew _ (List.mem_of_getElem? h)
  cases hinside

theorem exclusive_taskStep {index : Nat} (h : Exclusive modules s) (hstep : TaskStep index s s') :
    Exclusive modules s' := by
  cases hstep with
  | @take call htask hfree =>
    refine ⟨?_, h.stopAt.of_ne (by simp [hfree]) (by simp)⟩
    intro j call' point hj
    rcases eq_of_getElem?_set hj with ⟨rfl, -⟩ | ⟨-, hj⟩
    · rfl
    · have hholds := h.inside hj
      rw [hfree] at hholds
      cases hholds
  | @go call point htask hleft =>
    refine ⟨?_, h.stopAt⟩
    intro j call' point' hj
    rcases eq_of_getElem?_set hj with ⟨rfl, -⟩ | ⟨-, hj⟩
    · exact h.inside htask
    · exact h.inside hj
  | @give call result htask =>
    have hholds := h.inside htask
    refine ⟨?_, h.stopAt.of_ne (by simp [hholds]) (by simp)⟩
    intro j call' point hj
    rcases eq_of_getElem?_set hj with ⟨-, hj⟩ | ⟨hne, hj⟩
    · cases hj
    · have hholds' := h.inside hj
      rw [hholds] at hholds'
      cases hholds'
      exact absurd rfl hne
  | @other task task' c htask hmove =>
    refine ⟨?_, h.stopAt⟩
    intro j call point hj
    rcases eq_of_getElem?_set hj with ⟨-, rfl⟩ | ⟨-, hj⟩
    · have hother := (Task.isHandler_of_move hmove).2
      cases hother
    · exact h.inside hj

omit [Policy π] in
theorem exclusive_stopStep (h : Exclusive modules s) (hstep : StopStep s s') :
    Exclusive modules s' := by
  have hat := h.stopAt
  cases hstep with
  | @acquire rest hstop hfree =>
    rw [hstop, hfree] at hat
    refine ⟨?_, ?_⟩
    · intro j call point hj
      have hholds := h.inside hj
      rw [hfree] at hholds
      cases hholds
    · rcases hat.cons with ⟨-, -, rfl⟩ | ⟨hheld, -⟩ | ⟨hheld, -⟩ | ⟨-, hrest⟩
      · exact .locked
      · cases hheld
      · cases hheld
      · exact absurd rfl (ne_of_mem_teardown (hrest.subset (List.mem_cons_self ..))).1
  | @unlock rest hstop =>
    rw [hstop] at hat
    rcases hat.cons with ⟨-, hmove, -⟩ | ⟨-, hmove, -⟩ | ⟨hheld, -, rfl⟩ | ⟨-, hrest⟩
    · cases hmove
    · cases hmove
    · refine ⟨?_, .unlocked (by simp) List.suffix_rfl⟩
      intro j call point hj
      have hholds := h.inside hj
      rw [hheld] at hholds
      cases hholds
    · exact absurd rfl (ne_of_mem_teardown (hrest.subset (List.mem_cons_self ..))).2.2
  | @move move rest hstop hacquire hunlock =>
    rw [hstop] at hat
    refine ⟨h.inside, ?_⟩
    rcases hat.cons with ⟨-, hmove, -⟩ | ⟨hheld, -, rfl⟩ | ⟨-, hmove, -⟩ | ⟨hne, hrest⟩
    · exact absurd hmove hacquire
    · exact hheld ▸ .entered
    · exact absurd hmove hunlock
    · exact .unlocked hne ((List.suffix_cons move rest).trans hrest)

theorem exclusive_occur {event : Occurrence} (h : Exclusive modules s)
    (hstep : s.occur event = some s') : Exclusive modules s' := by
  cases event with
  | move who =>
    cases who with
    | task index => exact exclusive_taskStep h (taskStep_of_stepTask hstep)
    | stop => exact exclusive_stopStep h (stopStep_of_stepStop hstep)
  | signal | started =>
    cases hstep
    exact ⟨h.inside, h.stopAt⟩

/-! ## No way back -/

omit [Policy π] in
theorem mayRun_run {move : StopMove} {c : Coordinator σ π} (h : c.state.mayRun = false) :
    (move.run c).state.mayRun = false := by
  cases move with
  | enter | finish => rfl
  | _ => exact h

theorem mayRun_taskStep {index : Nat} (h : s.coordinator.state.mayRun = false)
    (hstep : TaskStep index s s') : s'.coordinator.state.mayRun = false := by
  cases hstep with
  | take | give => exact h
  | @go call point htask hleft =>
    show (Handler.step call point s.coordinator).2.state.mayRun = false
    rcases Handler.step_cases call s.coordinator hleft with
      ⟨error, rfl⟩ | ⟨error, rfl⟩ | ⟨-, -, -, hstate⟩
    · exact h
    · exact s.coordinator.mayRun_noteFatal
    · rw [hstate]
      exact h
  | @other task task' c htask hmove =>
    show c.state.mayRun = false
    cases Task.moves_of_move hmove with
    | dequeue =>
      rw [Coordinator.dequeue_eq]
      exact h
    | fire => exact h
    | note => exact s.coordinator.mayRun_noteFatal

/-- **A coordinator that has left its running state** never accepts messages again. -/
theorem mayRun_occur {event : Occurrence} (h : s.coordinator.state.mayRun = false)
    (hstep : s.occur event = some s') : s'.coordinator.state.mayRun = false := by
  cases event with
  | move who =>
    cases who with
    | task index => exact mayRun_taskStep h (taskStep_of_stepTask hstep)
    | stop =>
      cases stopStep_of_stepStop hstep with
      | acquire | unlock => exact h
      | move => exact mayRun_run h
  | signal signal =>
    cases hstep
    exact h
  | started =>
    cases hstep
    show (s.coordinator.advance .starting .running).state.mayRun = false
    rw [Coordinator.advance_of_not_mayRun h]
    exact h

end System
end Replica
