/-
What a failed message does to the messages behind it.

A handler call that fails offers its failure to the trigger before it returns, and
notes it in the lifecycle state if it is accepted. `System.Heeds` ties the trigger
to the state along a course. From it: once a call has returned a failure, and no
signal came first, every call that has not begun is refused
(`refused_after_failure`). Behind a signal the calls go on until the stop enters.
-/
import Replica.Proofs.Coordinator.Calls
import Replica.Proofs.Coordinator.Course

namespace Replica

namespace Task

/-- Whether a handler call that has offered its failure to the trigger. -/
def hasOffered : Task → Bool
  | inside _ point => point.hasOffered
  | returned _ (.error error) => error.isFailure
  | _ => false

/-- Whether a handler call that has returned a failure. -/
def hasFailed : Task → Bool
  | returned _ (.error error) => error.isFailure
  | _ => false

/-- Whether a call that fired the trigger and is about to note it in the lifecycle state. -/
def isNoting : Task → Bool
  | inside _ (.note _) | shutdown _ .note => true
  | _ => false

/-- **A handler call that is refused**, from before it takes the lock until it has returned. -/
inductive Refused (call : Handler.Call) : Task → Prop
  | waiting : Refused call (.waiting call)
  | check : Refused call (.inside call .check)
  | finished (state : Lifecycle) :
      Refused call (.inside call (.finished (.error (.notRunning state))))
  | returned (state : Lifecycle) : Refused call (.returned call (.error (.notRunning state)))

theorem hasOffered_of_hasFailed {task : Task} (h : task.hasFailed = true) :
    task.hasOffered = true := by
  cases task with
  | returned call result => cases result <;> exact h
  | _ => cases h

end Task

namespace System

variable {σ π : Type} [MessageStores σ] [Policy π] {s s' : System σ π} {modules : Nat}

/-! ## The trigger and the state along a course -/

/-- **Failures are heeded**: who has offered one finds the trigger fired; while a handler call is about
to note its failure no call has returned one; and a fatal error that was accepted is about to be noted
or has been. -/
structure Heeds (s : System σ π) : Prop where
  offered {index : Nat} {task : Task} (h : s.tasks[index]? = some task)
    (hoffered : task.hasOffered = true) : s.coordinator.isShuttingDown = true
  noting {index : Nat} {call : Handler.Call} {error : CoordinatorError}
    (h : s.tasks[index]? = some (.inside call (.note error))) {other : Nat} {task : Task}
    (hother : s.tasks[other]? = some task) : task.hasFailed = false
  noted {error : CoordinatorError} (h : s.coordinator.trigger.reason = some (.fatal error)) :
    (∃ (index : Nat) (task : Task), s.tasks[index]? = some task ∧ task.isNoting = true) ∨
      s.coordinator.state.mayRun = false

omit [MessageStores σ] [Policy π] in
theorem heeds_initial {c : Coordinator σ π} (harmed : c.trigger = .armed) {calls : List Task}
    (hnew : ∀ task ∈ calls, task.isNew = true) (modules : Nat) :
    Heeds (initial c calls modules) := by
  refine ⟨?_, ?_, ?_⟩
  · intro index task h hoffered
    have htask := hnew task (List.mem_of_getElem? h)
    cases task with
    | inside | returned => cases htask
    | _ => cases hoffered
  · intro index call error h
    have htask := hnew _ (List.mem_of_getElem? h)
    cases htask
  · intro error h
    change c.trigger.reason = _ at h
    rw [harmed] at h
    cases h

omit [MessageStores σ] [Policy π] in
theorem getElem?_of_isNoting {index j : Nat} {task other : Task} (task' : Task)
    (htask : s.tasks[index]? = some task) (hquiet : task.isNoting = false)
    (hj : s.tasks[j]? = some other) (hnotes : other.isNoting = true) :
    (s.tasks.set index task')[j]? = some other := by
  have hne : index ≠ j := by
    intro heq
    rw [heq, hj] at htask
    cases htask
    rw [hquiet] at hnotes
    cases hnotes
  rw [List.getElem?_set_ne hne]
  exact hj

omit [MessageStores σ] [Policy π] in
theorem Heeds.quiet (h : Heeds s) {index : Nat} {task task' : Task}
    (htask : s.tasks[index]? = some task) (htasks : s'.tasks = s.tasks.set index task')
    (htrigger : s'.coordinator.trigger = s.coordinator.trigger)
    (hstate : s'.coordinator.state = s.coordinator.state)
    (hoffered : task'.hasOffered = true → s.coordinator.isShuttingDown = true)
    (hnoting : task.isNoting = false ∧ task'.isNoting = false)
    (hfailed : task'.hasFailed = true → ∀ {other : Nat} {call : Handler.Call}
      {error : CoordinatorError}, s.tasks[other]? ≠ some (.inside call (.note error))) :
    Heeds s' := by
  have hfired : s'.coordinator.isShuttingDown = s.coordinator.isShuttingDown := by
    rw [Coordinator.isShuttingDown, htrigger, ← Coordinator.isShuttingDown]
  refine ⟨?_, ?_, ?_⟩
  · intro j other hj hoffers
    rw [htasks] at hj
    rw [hfired]
    rcases eq_of_getElem?_set hj with ⟨-, rfl⟩ | ⟨-, hj'⟩
    · exact hoffered hoffers
    · exact h.offered hj' hoffers
  · intro j call error hj k other hk
    rw [htasks] at hj hk
    rcases eq_of_getElem?_set hj with ⟨-, rfl⟩ | ⟨-, hj'⟩
    · cases hnoting.2
    · rcases eq_of_getElem?_set hk with ⟨-, rfl⟩ | ⟨-, hk'⟩
      · rw [Bool.eq_false_iff]
        intro hfails
        exact hfailed hfails hj'
      · exact h.noting hj' hk'
  · intro error herror
    rw [htrigger] at herror
    rw [hstate]
    rcases h.noted herror with ⟨j, other, hj, hnotes⟩ | hclosed
    · have hstays := getElem?_of_isNoting task' htask hnoting.1 hj hnotes
      rw [← htasks] at hstays
      exact .inl ⟨j, other, hstays, hnotes⟩
    · exact .inr hclosed

omit [MessageStores σ] [Policy π] in
theorem Heeds.offer (h : Heeds s) {index : Nat} {task task' : Task} {error : CoordinatorError}
    (htask : s.tasks[index]? = some task) (htasks : s'.tasks = s.tasks.set index task')
    (hcoordinator : s'.coordinator = (s.coordinator.offer error).2)
    (hnoting : task.isNoting = false ∧ task'.isNoting = (s.coordinator.offer error).1)
    (hfailed : task'.hasFailed = false) : Heeds s' := by
  rcases s.coordinator.offer_cases error with
    ⟨hfired, hoffer⟩ | ⟨harmed, haccepted, hfired, hstate⟩
  · rw [hoffer] at hcoordinator hnoting
    refine h.quiet htask htasks (by rw [hcoordinator]) (by rw [hcoordinator]) (fun _ => hfired) hnoting ?_
    intro hfails
    rw [hfailed] at hfails
    cases hfails
  · -- The offer is the first, so nobody has returned a failure yet.
    refine ⟨?_, ?_, ?_⟩
    · intro j other hj _
      rw [hcoordinator]
      exact hfired
    · intro j call error' hj k other hk
      rw [htasks] at hk
      rcases eq_of_getElem?_set hk with ⟨-, rfl⟩ | ⟨-, hk'⟩
      · exact hfailed
      · rw [Bool.eq_false_iff]
        intro hfails
        have hbefore := h.offered hk' (Task.hasOffered_of_hasFailed hfails)
        rw [harmed] at hbefore
        cases hbefore
    · intro error' _
      refine .inl ⟨index, task', ?_, by rw [hnoting.2, haccepted]⟩
      rw [htasks, List.getElem?_set_self', htask]
      rfl

omit [MessageStores σ] [Policy π] in
theorem Heeds.note (h : Heeds s) {index : Nat} {task' : Task}
    (htasks : s'.tasks = s.tasks.set index task')
    (hcoordinator : s'.coordinator = s.coordinator.noteFatal)
    (hoffered : task'.hasOffered = true → s.coordinator.isShuttingDown = true)
    (hnoting : task'.isNoting = false) (hfailed : task'.hasFailed = false) : Heeds s' := by
  have hfired : s'.coordinator.isShuttingDown = s.coordinator.isShuttingDown := by
    rw [hcoordinator, Coordinator.isShuttingDown, Coordinator.trigger_noteFatal,
      ← Coordinator.isShuttingDown]
  refine ⟨?_, ?_, ?_⟩
  · intro j other hj hoffers
    rw [htasks] at hj
    rw [hfired]
    rcases eq_of_getElem?_set hj with ⟨-, rfl⟩ | ⟨-, hj'⟩
    · exact hoffered hoffers
    · exact h.offered hj' hoffers
  · intro j call error hj k other hk
    rw [htasks] at hj hk
    rcases eq_of_getElem?_set hj with ⟨-, rfl⟩ | ⟨-, hj'⟩
    · cases hnoting
    · rcases eq_of_getElem?_set hk with ⟨-, rfl⟩ | ⟨-, hk'⟩
      · exact hfailed
      · exact h.noting hj' hk'
  · intro _ _
    rw [hcoordinator]
    exact .inr s.coordinator.mayRun_noteFatal

theorem heeds_taskStep {index : Nat} (hexclusive : Exclusive modules s) (h : Heeds s)
    (hstep : TaskStep index s s') : Heeds s' := by
  cases hstep with
  | @take call htask hfree =>
    exact h.quiet htask rfl rfl rfl (fun hoffers => by cases hoffers) ⟨rfl, rfl⟩
      (fun hfails => by cases hfails)
  | @go call point htask hleft =>
    rcases Handler.step_cases call s.coordinator hleft with
      ⟨error, rfl⟩ | ⟨error, rfl⟩ | ⟨hpoint, hnext, htrigger, hstate⟩
    · refine h.offer htask rfl rfl ⟨rfl, ?_⟩ rfl
      unfold Handler.step
      dsimp only
      split
      · rename_i haccepted
        exact haccepted.symm
      · rename_i hdeclined
        exact (Bool.not_eq_true _ ▸ hdeclined).symm
    · exact h.note rfl rfl (fun _ => h.offered htask rfl) rfl rfl
    · have hquiet {point' : Handler.Point} (hpoint' : point'.hasOffered = false) :
          (Task.inside call point').isNoting = false := by
        cases point' with
        | note error => cases hpoint'
        | _ => rfl
      refine h.quiet htask rfl htrigger hstate ?_ ⟨hquiet hpoint, hquiet hnext⟩ ?_
      · intro hoffers
        change (Handler.step call point s.coordinator).1.hasOffered = true at hoffers
        rw [hnext] at hoffers
        cases hoffers
      · intro hfails
        cases hfails
  | @give call result htask =>
    refine h.quiet htask rfl rfl rfl ?_ ⟨rfl, rfl⟩ ?_
    · intro hoffers
      refine h.offered htask ?_
      cases result <;> exact hoffers
    · -- Who is about to note a failure holds the lock, as does who gives it back.
      intro _ j call' error hj
      have hholds := hexclusive.inside htask
      rw [hexclusive.inside hj] at hholds
      cases hholds
      rw [hj] at htask
      cases htask
  | @other task task' c htask hmove =>
    cases Task.moves_of_move hmove with
    | dequeue =>
      refine h.quiet htask rfl ?_ ?_ (fun hoffers => by cases hoffers) ⟨rfl, rfl⟩
        (fun hfails => by cases hfails)
      · show s.coordinator.dequeue.2.trigger = s.coordinator.trigger
        rw [Coordinator.dequeue_eq]
      · show s.coordinator.dequeue.2.state = s.coordinator.state
        rw [Coordinator.dequeue_eq]
    | fire error =>
      refine h.offer htask rfl rfl ⟨rfl, ?_⟩ rfl
      cases (s.coordinator.offer error).1 <;> rfl
    | note error => exact h.note rfl rfl (fun hoffers => by cases hoffers) rfl rfl

omit [MessageStores σ] [Policy π] in
theorem Heeds.of_tasks (h : Heeds s) (htasks : s'.tasks = s.tasks)
    (hfired : s.coordinator.isShuttingDown = true → s'.coordinator.isShuttingDown = true)
    (hfatal : ∀ {error : CoordinatorError}, s'.coordinator.trigger.reason = some (.fatal error) →
      s.coordinator.trigger.reason = some (.fatal error))
    (hstate : s.coordinator.state.mayRun = false → s'.coordinator.state.mayRun = false) :
    Heeds s' := by
  refine ⟨?_, ?_, ?_⟩
  · intro j other hj hoffers
    rw [htasks] at hj
    exact hfired (h.offered hj hoffers)
  · intro j call error hj k other hk
    rw [htasks] at hj hk
    exact h.noting hj hk
  · intro error herror
    rw [htasks]
    rcases h.noted (hfatal herror) with hnotes | hclosed
    · exact .inl hnotes
    · exact .inr (hstate hclosed)

omit [Policy π] in
theorem heeds_stopStep (h : Heeds s) (hstep : StopStep s s') : Heeds s' := by
  cases hstep with
  | acquire | unlock => exact h.of_tasks rfl id id id
  | @move move rest hstop hacquire hunlock =>
    have htrigger : (move.run s.coordinator).trigger = s.coordinator.trigger := by
      cases move <;> rfl
    refine h.of_tasks rfl ?_ ?_ mayRun_run
    · intro hfired
      rw [Coordinator.isShuttingDown, htrigger]
      exact hfired
    · intro error herror
      rw [← htrigger]
      exact herror

theorem heeds_occur {event : Occurrence} (hexclusive : Exclusive modules s) (h : Heeds s)
    (hstep : s.occur event = some s') : Heeds s' := by
  cases event with
  | move who =>
    cases who with
    | task index => exact heeds_taskStep hexclusive h (taskStep_of_stepTask hstep)
    | stop => exact heeds_stopStep h (stopStep_of_stepStop hstep)
  | signal signal =>
    cases hstep
    rcases s.coordinator.receive_cases signal with hsame | ⟨hreason, hstate⟩
    · rw [hsame]
      exact h.of_tasks rfl id id id
    · refine h.of_tasks rfl ?_ ?_ ?_
      · intro _
        rw [Coordinator.isShuttingDown, Trigger.isFired, hreason]
        rfl
      · intro error herror
        rw [hreason] at herror
        cases herror
      · intro hclosed
        rw [hstate]
        exact hclosed
  | started =>
    cases hstep
    have htrigger := s.coordinator.trigger_advance .starting .running
    refine h.of_tasks rfl ?_ ?_ ?_
    · intro hfired
      rw [Coordinator.isShuttingDown, htrigger]
      exact hfired
    · intro error herror
      rw [← htrigger]
      exact herror
    · intro hclosed
      rw [Coordinator.advance_of_not_mayRun hclosed]
      exact hclosed

/-- **A whole course** keeps the lock exclusive and heeds failures. -/
theorem heeds_course {start : System σ π} {events : List Occurrence}
    (hexclusive : Exclusive modules start) (h : Heeds start) (hcourse : Course start events s) :
    Exclusive modules s ∧ Heeds s := by
  induction hcourse with
  | nil => exact ⟨hexclusive, h⟩
  | snoc _ hstep ih => exact ⟨exclusive_occur ih.1 hstep, heeds_occur ih.1 ih.2 hstep⟩

/-! ## Behind a failure -/

theorem refused_taskStep {index : Nat} {call : Handler.Call} {task : Task}
    (h : s.coordinator.state.mayRun = false) (htask : s.tasks[index]? = some task)
    (hrefused : task.Refused call) (hstep : TaskStep index s s') :
    s'.coordinator = s.coordinator ∧
      ∃ task', s'.tasks[index]? = some task' ∧ task'.Refused call := by
  have hset (task' : Task) : (s.tasks.set index task')[index]? = some task' := by
    rw [List.getElem?_set_self', htask]
    rfl
  cases hstep with
  | @take call' htask' hfree =>
    rw [htask] at htask'
    cases htask'
    cases hrefused
    exact ⟨rfl, _, hset _, .check⟩
  | @go call' point htask' hleft =>
    rw [htask] at htask'
    cases htask'
    cases hrefused with
    | check =>
      have hcheck := Handler.step_check_of_refuses call (Lifecycle.acceptsMessages_of_not_mayRun h)
      refine ⟨congrArg Prod.snd hcheck, _, hset _, ?_⟩
      rw [hcheck]
      exact .finished _
    | finished state => cases hleft
  | @give call' result htask' =>
    rw [htask] at htask'
    cases htask'
    cases hrefused with
    | finished state => exact ⟨rfl, _, hset _, .returned state⟩
  | @other task' task'' c htask' hmove =>
    rw [htask] at htask'
    cases htask'
    have hother := (Task.isHandler_of_move hmove).1
    cases hrefused <;> cases hother

/-- **One occurrence** keeps a refused call refused. -/
theorem refused_occur {event : Occurrence} {index : Nat} {call : Handler.Call} {task : Task}
    (h : s.coordinator.state.mayRun = false) (htask : s.tasks[index]? = some task)
    (hrefused : task.Refused call) (hstep : s.occur event = some s') :
    ∃ task', s'.tasks[index]? = some task' ∧ task'.Refused call := by
  cases event with
  | move who =>
    cases who with
    | task other =>
      have hstep' := taskStep_of_stepTask hstep
      by_cases hsame : other = index
      · rw [hsame] at hstep'
        exact (refused_taskStep h htask hrefused hstep').2
      · have hset (task' : Task) : (s.tasks.set other task')[index]? = some task := by
          rw [List.getElem?_set_ne hsame]
          exact htask
        cases hstep' <;> exact ⟨task, hset _, hrefused⟩
    | stop =>
      cases stopStep_of_stepStop hstep <;> exact ⟨task, htask, hrefused⟩
  | signal | started =>
    cases hstep
    exact ⟨task, htask, hrefused⟩

theorem refused_course {events : List Occurrence} {index : Nat} {call : Handler.Call}
    (h : s.coordinator.state.mayRun = false) (htask : s.tasks[index]? = some (.waiting call))
    (hcourse : Course s events s') :
    s'.coordinator.state.mayRun = false ∧
      ∃ task, s'.tasks[index]? = some task ∧ task.Refused call := by
  induction hcourse with
  | nil => exact ⟨h, _, htask, .waiting⟩
  | snoc _ hstep ih =>
    obtain ⟨hclosed, task, htask', hrefused⟩ := ih
    exact ⟨mayRun_occur hclosed hstep, refused_occur hclosed htask' hrefused hstep⟩

/-- **A failure closes the coordinator**, unless a signal came first: once a handler call has returned a
failure of the policy, of a fold or of a store, and no request for a shutdown has yet to note what it had
accepted, the coordinator accepts no message any more. A handler call that has not begun by then changes
neither the policy nor the stores, and can only return that the coordinator is not running. -/
theorem refused_after_failure {c : Coordinator σ π} (harmed : c.trigger = .armed)
    {calls : List Task} (hnew : ∀ task ∈ calls, task.isNew = true) {modules : Nat}
    {before after : List Occurrence} {s t : System σ π}
    (hbefore : Course (initial c calls modules) before s) {failed : Nat} {call : Handler.Call}
    {error : CoordinatorError} (hfailed : s.tasks[failed]? = some (.returned call (.error error)))
    (hfailure : error.isFailure = true)
    (hsignal : ∀ signal, s.coordinator.trigger.reason ≠ some (.signal signal))
    (hnoted : ∀ error, Task.shutdown error .note ∉ s.tasks)
    (hafter : Course s after t) {later : Nat} {call' : Handler.Call}
    (hlater : s.tasks[later]? = some (.waiting call')) :
    t.coordinator.state.acceptsMessages = false ∧
      Handler.handle call' t.coordinator =
        (.error (.notRunning t.coordinator.state), t.coordinator) ∧
      (∃ task, t.tasks[later]? = some task ∧ task.Refused call') ∧
      ∀ u, t.step (.task later) = some u → u.coordinator = t.coordinator := by
  obtain ⟨-, hheeds⟩ := heeds_course (exclusive_initial c hnew modules)
    (heeds_initial harmed hnew modules) hbefore
  have hfired : s.coordinator.isShuttingDown = true := hheeds.offered hfailed hfailure
  have hclosed : s.coordinator.state.mayRun = false := by
    -- What was accepted has been noted: a handler that is about to note it would still be inside.
    cases hreason : s.coordinator.trigger.reason with
    | none =>
      rw [Coordinator.isShuttingDown, Trigger.isFired, hreason] at hfired
      cases hfired
    | some reason =>
      cases reason with
      | signal signal => exact absurd hreason (hsignal signal)
      | fatal error' =>
        rcases hheeds.noted hreason with ⟨index, task, htask, hnoting⟩ | hclosed
        · cases task with
          | inside call'' point =>
            cases point with
            | note error'' =>
              have hnone : (Task.returned call (.error error)).hasFailed = false :=
                hheeds.noting htask hfailed
              change error.isFailure = false at hnone
              rw [hfailure] at hnone
              cases hnone
            | _ => cases hnoting
          | shutdown error'' stage =>
            cases stage with
            | note => exact absurd (List.mem_of_getElem? htask) (hnoted error'')
            | _ => cases hnoting
          | _ => cases hnoting
        · exact hclosed
  obtain ⟨hstate, task, htask, hrefused⟩ := refused_course hclosed hlater hafter
  have hrefuses := Lifecycle.acceptsMessages_of_not_mayRun hstate
  refine ⟨hrefuses, Handler.handle_of_refuses call' hrefuses,
    ⟨task, htask, hrefused⟩, ?_⟩
  intro u hstep
  exact (refused_taskStep hstate htask hrefused (taskStep_of_stepTask hstep)).1

/-! ## One failure and one message behind it -/

/-- A message the policy fails on, one it does not fail on, and a request for a shutdown. -/
def oneFails : List Task :=
  [.waiting ⟨⟨⟨1⟩, []⟩, .local⟩, .waiting ⟨⟨⟨2⟩, []⟩, .local⟩, .shutdown (.other "enough") .fire]

/-- A coordinator over stores whose policy fails on the first message. -/
def failsOnFirst (stores : FileStores) : Coordinator FileStores RecordingPolicy :=
  ⟨stores, { failOn := [⟨1⟩] }, .armed, .running⟩

/-- The system behind some occurrences and the first message, and then behind the second. -/
def firstThenSecond (first : List Occurrence) (moves : Nat) :
    Option (System FileStores RecordingPolicy × System FileStores RecordingPolicy) :=
  match FileStores.open { dataDirectory := "/data" } .sum {} with
  | .error .. => none
  | .ok stores _ => do
    let s ← (initial (failsOnFirst stores) oneFails 0).follow first
    let t ← s.follow (List.replicate moves (.move (.task 1)))
    return (s, t)

theorem courses_of_firstThenSecond {first : List Occurrence} {moves : Nat}
    {s t : System FileStores RecordingPolicy} (h : firstThenSecond first moves = some (s, t)) :
    ∃ stores disk, FileStores.open { dataDirectory := "/data" } .sum {} = .ok stores disk ∧
      Course (initial (failsOnFirst stores) oneFails 0) first s ∧
      Course s (List.replicate moves (.move (.task 1))) t := by
  unfold firstThenSecond at h
  split at h
  · cases h
  · rename_i stores disk hopen
    obtain ⟨s', hs, h⟩ := Option.bind_eq_some_iff.1 h
    obtain ⟨t', ht, h⟩ := Option.bind_eq_some_iff.1 h
    cases h
    have hfirst := course_of_follow .nil hs
    have hsecond := course_of_follow .nil ht
    rw [List.nil_append] at hfirst hsecond
    exact ⟨stores, disk, hopen, hfirst, hsecond⟩

/-- Whether the first message has failed, with no signal before it, and the second has not begun. -/
def firstHasFailed (s : System FileStores RecordingPolicy) : Bool :=
  match s.tasks, s.coordinator.trigger.reason with
  | [.returned _ (.error (.policy ..)), .waiting ⟨⟨⟨2⟩, []⟩, .local⟩, .shutdown _ .fire],
    some (.fatal _) => true
  | _, _ => false

/-- The failure of the first message closes the coordinator for the second. -/
theorem refused_after_failure_firstThenSecond :
    ∃ s t, firstThenSecond (List.replicate 6 (.move (.task 0))) 3 = some (s, t) ∧
      t.coordinator.state.acceptsMessages = false ∧
      ∃ task, t.tasks[1]? = some task ∧ task.Refused ⟨⟨⟨2⟩, []⟩, .local⟩ := by
  have heval : (firstThenSecond (List.replicate 6 (.move (.task 0))) 3).any
      (fun p => firstHasFailed p.1) = true := by
    decide +kernel
  obtain ⟨⟨s, t⟩, hruns, hfirst⟩ := (Option.any_eq_true ..).1 heval
  dsimp only at hfirst
  unfold firstHasFailed at hfirst
  split at hfirst
  · rename_i call id text error reason htasks hreason
    obtain ⟨stores, disk, hopen, hbefore, hafter⟩ := courses_of_firstThenSecond hruns
    have hnew : ∀ task ∈ oneFails, task.isNew = true := by decide
    have hfailed : s.tasks[0]? = some (.returned call (.error (.policy id text))) := by
      rw [htasks]
      rfl
    have hlater : s.tasks[1]? = some (.waiting ⟨⟨⟨2⟩, []⟩, .local⟩) := by
      rw [htasks]
      rfl
    obtain ⟨hstate, -, hrefused, -⟩ := refused_after_failure rfl hnew hbefore hfailed rfl
      (fun signal => by rw [hreason]; simp) (fun error => by rw [htasks]; simp) hafter hlater
    exact ⟨s, t, hruns, hstate, hrefused⟩
  · cases hfirst

/-- Whether the second message is applied although the first has failed, if this happens first. -/
def appliesBehindFailure (first : Occurrence) : Bool :=
  match firstThenSecond (first :: List.replicate 5 (.move (.task 0))) 7 with
  | none => false
  | some (s, t) =>
    match s.tasks[0]?, s.tasks[1]?, t.tasks[1]? with
    | some (Task.returned _ (.error error)), some (Task.waiting _),
      some (Task.returned _ (.ok (.applied ⟨2⟩))) => error.isFailure
    | _, _, _ => false

/-- **A message is applied behind a failure**: if this happens first, the first message fails and
returns, and the second begins only then and is applied. -/
def AppliedBehindFailure (first : Occurrence) : Prop :=
  ∃ stores disk s t call call' call'' error,
    FileStores.open { dataDirectory := "/data" } .sum {} = .ok stores disk ∧
      Course (initial (failsOnFirst stores) oneFails 0)
        (first :: List.replicate 5 (.move (.task 0))) s ∧
      s.tasks[0]? = some (.returned call (.error error)) ∧ error.isFailure = true ∧
      s.tasks[1]? = some (.waiting call') ∧
      Course s (List.replicate 7 (.move (.task 1))) t ∧
      t.tasks[1]? = some (.returned call'' (.ok (.applied ⟨2⟩)))

theorem appliedBehindFailure_of_applies {first : Occurrence}
    (h : appliesBehindFailure first = true) : AppliedBehindFailure first := by
  unfold appliesBehindFailure at h
  split at h
  · cases h
  · rename_i s t hruns
    obtain ⟨stores, disk, hopen, hfirst, hsecond⟩ := courses_of_firstThenSecond hruns
    split at h
    · rename_i call error call' call'' hfailed hwaiting happlied
      exact ⟨stores, disk, s, t, call, call', call'', error, hopen, hfirst, hfailed, h, hwaiting,
        hsecond, happlied⟩
    · cases h

/-- Behind a signal a failure closes nothing. -/
theorem applied_behind_failure_of_signal : AppliedBehindFailure (.signal .terminate) :=
  appliedBehindFailure_of_applies (by decide +kernel)

/-- Nor does it while a request for a shutdown has fired the trigger and has not noted it yet. -/
theorem applied_behind_failure_of_request : AppliedBehindFailure (.move (.task 2)) :=
  appliedBehindFailure_of_applies (by decide +kernel)

end System
end Replica
