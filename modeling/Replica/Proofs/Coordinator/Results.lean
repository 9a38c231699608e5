/-
What the result of a handler call tells, wherever a service has come to.

While messages are accepted the stores are open (`Attended.isOpen`), so the report of
a call tells what it did. Made by a service with nobody in between, the call leads to
the coordinator of its report (`follow_call`). If it is the first to fail, its error is
what the trigger keeps from then on: whoever listens gets it (`Attended.listened_eq`),
and can get it wherever the service has come to (`Attended.exists_listened`).
-/
import Replica.Proofs.Coordinator.Calls
import Replica.Proofs.Coordinator.Deeds
import Replica.Proofs.Coordinator.Latch
import Replica.Proofs.Coordinator.Service

namespace Replica

/-! ## The trigger and its waiters -/

/-- Waiters are called behind the reason that is accepted. -/
def Trigger.HasAnnounced (trigger : Trigger) : Prop :=
  trigger.announced = trigger.reason.toList.length

theorem Trigger.HasAnnounced.fire {trigger : Trigger} (h : trigger.HasAnnounced) (reason : ShutdownReason) :
    (trigger.fire reason).2.HasAnnounced := by
  obtain ⟨before, announced⟩ := trigger
  cases before with
  | some first => exact h
  | none => exact congrArg Nat.succ h

theorem Race.Informed.fire {trigger : Trigger} {waiter : Waiter} (h : Informed trigger waiter)
    (reason : ShutdownReason) : Informed (trigger.fire reason).2 waiter := by
  cases hreason : trigger.reason with
  | some first => simpa only [Trigger.fire, Trigger.accept, hreason] using h
  | none => simpa only [Trigger.fire, Trigger.accept, hreason] using (h.accept reason hreason).announce

namespace System

variable {σ π : Type} [MessageStores σ] [Policy π] {s s' : System σ π} {modules : Nat}

theorem trigger_occur {event : Occurrence} (h : s.occur event = some s') :
    s'.coordinator.trigger = s.coordinator.trigger ∨
      ∃ reason, s'.coordinator.trigger = (s.coordinator.trigger.fire reason).2 := by
  cases affects_occur h with
  | quiet _ htrigger | note _ htrigger | started _ htrigger | enter _ htrigger | finish _ htrigger =>
    exact .inl htrigger
  | offer _ htrigger => exact .inr ⟨_, htrigger⟩

theorem announced_occur {event : Occurrence} (h : s.coordinator.trigger.HasAnnounced)
    (hstep : s.occur event = some s') : s'.coordinator.trigger.HasAnnounced := by
  rcases trigger_occur hstep with hsame | ⟨reason, hfired⟩
  · rwa [hsame]
  · rw [hfired]
    exact h.fire reason

theorem informed_occur {event : Occurrence} {waiter : Waiter}
    (h : Race.Informed s.coordinator.trigger waiter) (hstep : s.occur event = some s') :
    Race.Informed s'.coordinator.trigger waiter := by
  rcases trigger_occur hstep with hsame | ⟨reason, hfired⟩
  · rwa [hsame]
  · rw [hfired]
    exact h.fire reason

theorem sound_occur {L : MessageStores.Separation σ} {event : Occurrence} (h : Sound L modules s)
    (hstep : s.occur event = some s') : Sound L modules s' := by
  cases event with
  | move who => exact sound_step h hstep
  | signal signal =>
    cases hstep
    exact ⟨h.task, h.stopAt, h.ready, h.terminal⟩
  | started =>
    cases hstep
    refine ⟨h.task, h.stopAt, fun he => ?_, fun he => ?_⟩
    · show L.Ready (s.coordinator.advance .starting .running).stores
      rw [Coordinator.stores_advance]
      exact h.ready he
    · have hterminal := h.terminal he
      have hsame : s.coordinator.advance .starting .running = s.coordinator := by
        refine Coordinator.advance_of_not_mayRun ?_
        cases hstate : s.coordinator.state <;> simp_all [Lifecycle.isTerminal, Lifecycle.mayRun]
      show (s.coordinator.advance .starting .running).state.isTerminal = true
      rw [hsame]
      exact hterminal

theorem stepTask_inside {index : Nat} {call : Handler.Call} {point : Handler.Point}
    (htask : s.tasks[index]? = some (.inside call point)) (hleft : point.result? = none) :
    s.stepTask index = some (s.goOn index call point) := by
  rw [stepTask, htask]
  cases point with
  | finished => cases hleft
  | _ => rfl

/-- Whoever holds the lock, and is not the stop, is inside. -/
def HolderInside (s : System σ π) : Prop :=
  ∀ index, s.holder = .task index →
    ∃ call point, s.tasks[index]? = some (.inside call point)

theorem HolderInside.taskStep {index : Nat} (h : s.HolderInside) (hstep : TaskStep index s s') :
    s'.HolderInside := by
  intro j hholds
  cases hstep with
  | @take call htask =>
    cases hholds
    exact ⟨call, .check, by rw [List.getElem?_set_self', htask]; rfl⟩
  | give => cases hholds
  | @go call point htask =>
    by_cases hsame : index = j
    · subst hsame
      exact ⟨call, _, by rw [put, List.getElem?_set_self', htask]; rfl⟩
    · obtain ⟨call', point', hinside⟩ := h j hholds
      exact ⟨call', point', by rw [put, List.getElem?_set_ne hsame]; exact hinside⟩
  | @other task task' c htask hmove =>
    obtain ⟨call, point, hinside⟩ := h j hholds
    have hne : index ≠ j := by
      rintro rfl
      rw [htask] at hinside
      cases hinside
      cases Task.moves_of_move hmove
    exact ⟨call, point, by rw [put, List.getElem?_set_ne hne]; exact hinside⟩

theorem HolderInside.occur {event : Occurrence} (h : s.HolderInside) (hstep : s.occur event = some s') :
    s'.HolderInside := by
  cases event with
  | move who =>
    cases who with
    | task index => exact h.taskStep (taskStep_of_stepTask hstep)
    | stop =>
      intro j hholds
      cases stopStep_of_stepStop hstep with
      | acquire | unlock => cases hholds
      | move => exact h j hholds
  | signal | started =>
    cases hstep
    exact h

end System

namespace Service

section

variable {σ π : Type} [MessageStores σ] [Policy π] {s s' : Service σ π}

theorem listener_occur {event : Event} (h : s.occur event = some s') :
    s'.listener = s.listener ∨
      s'.system = s.system ∧ s'.listener = s.listener.map (Waiter.step s.system.coordinator.trigger) := by
  cases event with
  | startModule =>
    simp only [occur] at h
    split at h <;> cases h
    exact .inl rfl
  | listen =>
    simp only [occur] at h
    split at h <;> cases h
    exact .inr ⟨rfl, rfl⟩
  | call index | signal name =>
    simp only [occur] at h
    obtain ⟨system, -, rfl⟩ := Option.map_eq_some_iff.1 h
    exact .inl rfl
  | ready | stop =>
    simp only [occur] at h
    split at h
    · obtain ⟨system, -, rfl⟩ := Option.map_eq_some_iff.1 h
      exact .inl rfl
    · cases h

theorem keeps_of_system {P : System σ π → Prop}
    (hkeeps : ∀ {s s' : System σ π} {event}, P s → s.occur event = some s' → P s') {event : Event}
    (h : P s.system) (hstep : s.occur event = some s') : P s'.system := by
  rcases system_occur hstep with ⟨-, hsame⟩ | ⟨occurrence, -, hsystem⟩
  · rwa [hsame]
  · exact hkeeps h hsystem

theorem isUp_occur {event : Event} (h : s.occur event = some s')
    (hup : event = .ready ∨ s.isUp = true) : s'.isUp = true := by
  cases event with
  | ready =>
    simp only [occur] at h
    split at h
    · obtain ⟨system, -, rfl⟩ := Option.map_eq_some_iff.1 h
      rfl
    · cases h
  | startModule | listen =>
    simp only [occur] at h
    split at h <;> cases h
    simpa using hup
  | call index | signal name =>
    simp only [occur] at h
    obtain ⟨system, -, rfl⟩ := Option.map_eq_some_iff.1 h
    simpa using hup
  | stop =>
    simp only [occur] at h
    split at h
    · obtain ⟨system, -, rfl⟩ := Option.map_eq_some_iff.1 h
      simpa using hup
    · cases h

theorem follow_cons (event : Event) (events : List Event) (s : Service σ π) :
    s.follow (event :: events) = (s.occur event).bind (follow events) := rfl

theorem follow_append {events events' : List Event} {t : Service σ π}
    (h : s.follow events = some t) : s.follow (events ++ events') = t.follow events' := by
  induction events generalizing s with
  | nil =>
    cases h
    rfl
  | cons event events ih =>
    obtain ⟨next, hnext, h⟩ := Option.bind_eq_some_iff.1 h
    rw [List.cons_append, follow_cons, hnext]
    exact ih h

theorem reason_follow_of_some {events : List Event} {t : Service σ π} {reason : ShutdownReason}
    (hreason : s.reason = some reason) (h : s.follow events = some t) : t.reason = some reason := by
  refine follow_keeps (P := fun s => s.reason = some reason) (fun hreason hstep => ?_) hreason h
  exact keeps_of_system (P := fun s => s.coordinator.trigger.reason = some reason)
    (fun h hsystem => System.reason_occur_of_some hsystem h) hreason hstep

/-! ## A call with nobody in between -/

/-- The service with another system. -/
def withSystem (s : Service σ π) (system : System σ π) : Service σ π := { s with system }

/-- The service when a handler call has given the lock back. -/
def handled (s : Service σ π) (index : Nat) (call : Handler.Call)
    (done : Except CoordinatorError Outcome × Coordinator σ π) : Service σ π :=
  s.withSystem { s.system with
    coordinator := done.2
    holder := .nobody
    tasks := s.system.tasks.set index (.returned call done.1) }

theorem follow_inside {s : Service σ π} {index : Nat} {call : Handler.Call} {point : Handler.Point}
    (htask : s.system.tasks[index]? = some (.inside call point)) :
    ∃ n, s.follow (List.replicate n (.call index)) =
      some (s.handled index call (Handler.run call point s.system.coordinator)) := by
  cases hresult : point.result? with
  | some result =>
    cases point with
    | finished result' =>
      refine ⟨1, ?_⟩
      unfold Handler.run
      show ((s.system.stepTask index).map _).bind _ = _
      rw [System.stepTask, htask]
      rfl
    | _ => cases hresult
  | none =>
    have hlt := Handler.rank_step_lt call point s.system.coordinator hresult
    have hstep := System.stepTask_inside htask hresult
    have hnext : (s.system.goOn index call point).tasks[index]? =
        some (.inside call (Handler.step call point s.system.coordinator).1) := by
      rw [System.goOn, System.put, List.getElem?_set_self', htask]
      rfl
    obtain ⟨n, hrest⟩ := follow_inside (s := s.withSystem (s.system.goOn index call point)) hnext
    refine ⟨n + 1, ?_⟩
    rw [List.replicate_succ, Handler.run_of_left call _ hresult, follow_cons]
    show ((s.system.stepTask index).map s.withSystem).bind _ = _
    rw [hstep, Option.map_some, Option.bind_some, hrest]
    simp only [handled, withSystem, System.goOn, System.put, List.set_set]
termination_by point.rank

/-- **A call with nobody in between** is a call in one go. -/
theorem follow_call {index : Nat} {call : Handler.Call}
    (htask : s.system.tasks[index]? = some (.waiting call)) (hfree : s.system.holder = .nobody) :
    ∃ n t, s.follow (List.replicate n (.call index)) = some t ∧
      t.system.coordinator = (Handler.handle call s.system.coordinator).2 ∧
      t.system.tasks[index]? = some (.returned call (Handler.handle call s.system.coordinator).1) ∧
      t.isUp = s.isUp := by
  let entered : Service σ π := s.withSystem { s.system with
    holder := .task index
    tasks := s.system.tasks.set index (.inside call .check)
    order := s.system.order ++ [index] }
  have hinside : entered.system.tasks[index]? = some (.inside call .check) := by
    show (s.system.tasks.set index _)[index]? = _
    rw [List.getElem?_set_self', htask]
    rfl
  obtain ⟨n, hrest⟩ := follow_inside hinside
  refine ⟨n + 1, entered.handled index call (Handler.handle call s.system.coordinator), ?_, rfl, ?_,
    rfl⟩
  · rw [List.replicate_succ, follow_cons]
    show ((s.system.stepTask index).map s.withSystem).bind _ = _
    rw [System.stepTask, htask]
    dsimp only
    rw [if_pos hfree, Option.map_some, Option.bind_some]
    exact hrest
  · show ((s.system.tasks.set index _).set index _)[index]? = _
    rw [List.set_set, List.getElem?_set_self', htask]
    rfl

/-! ## A stop with nobody in between -/

/-- Behind the lock nobody can keep the stop from going on. -/
theorem exists_stop (hup : s.isUp = true) (hheard : s.hasHeard = true)
    (hfree : .acquire ∉ s.system.stop) :
    ∃ n t, s.follow (List.replicate n .stop) = some t ∧ t.system.stop = [] ∧
      t.listener = s.listener := by
  generalize hleft : s.system.stop = left at hfree
  induction left generalizing s with
  | nil => exact ⟨0, s, rfl, hleft, rfl⟩
  | cons move rest ih =>
    obtain ⟨system, hsystem, hrest⟩ : ∃ system, s.system.stepStop = some system ∧ system.stop = rest := by
      rw [System.stepStop, hleft]
      cases move with
      | acquire => exact absurd (List.mem_cons_self ..) hfree
      | _ => exact ⟨_, rfl, rfl⟩
    obtain ⟨n, t, hfollow, hover, hlistener⟩ := @ih { s with
      system, modules := (s.system.stop.head?.elim id StopMove.onModules) s.modules }
      hup hheard hrest (fun hmem => hfree (List.mem_cons_of_mem _ hmem))
    refine ⟨n + 1, t, ?_, hover, hlistener⟩
    rw [List.replicate_succ, follow_cons, occur, if_pos ⟨hup, hheard⟩]
    show ((s.system.stepStop).map _).bind _ = _
    rw [hsystem, Option.map_some, Option.bind_some]
    exact hfollow

/-- Before the lock is taken, the stop goes on as soon as nobody holds it. -/
theorem exists_stop_of_free {modules : Nat} (hup : s.isUp = true) (hheard : s.hasHeard = true)
    (hat : System.StopAt modules s.system.holder s.system.stop)
    (hfree : ∀ index, s.system.holder ≠ .task index) :
    ∃ n t, s.follow (List.replicate n .stop) = some t ∧ t.system.stop = [] ∧
      t.listener = s.listener := by
  have hteardown : .acquire ∉ StopMove.teardown modules :=
    fun hmem => (System.ne_of_mem_teardown hmem).1 rfl
  generalize hholder : s.system.holder = holder at hat
  generalize hstop : s.system.stop = stop at hat
  cases hat with
  | locked | entered => exact exists_stop hup hheard (by simpa [hstop] using hteardown)
  | unlocked _ hrest =>
    exact exists_stop hup hheard fun hmem => hteardown (hrest.subset (hstop ▸ hmem))
  | waiting hne =>
    have hnobody : s.system.holder = .nobody := by
      cases hkind : s.system.holder with
      | nobody => rfl
      | task index => exact absurd hkind (hfree index)
      | stop => exact absurd (hholder.symm.trans hkind) hne
    let locked : Service σ π := ⟨{ s.system with
      holder := .stop
      stop := .enter :: .unlock :: StopMove.teardown modules }, s.modules, s.isUp, s.listener⟩
    have hrest : .acquire ∉ locked.system.stop := by
      show StopMove.acquire ∉ .enter :: .unlock :: StopMove.teardown modules
      simpa using hteardown
    obtain ⟨n, t, hfollow, hover, hlistener⟩ := exists_stop (s := locked) hup hheard hrest
    refine ⟨n + 1, t, ?_, hover, hlistener⟩
    rw [List.replicate_succ, follow_cons, occur, if_pos ⟨hup, hheard⟩, ← hfollow]
    show ((s.system.stepStop).map _).bind _ = _
    rw [System.stepStop, hstop]
    show ((if s.system.holder = .nobody then _ else none : Option (System σ π)).map _).bind _ = _
    rw [if_pos hnobody]
    rfl

theorem exists_listened {waiter : Waiter} {reason : ShutdownReason} {modules : Nat}
    (hup : s.isUp = true) (hlistener : s.listener = some waiter)
    (hinformed : Race.Informed s.system.coordinator.trigger waiter) (hreason : s.reason = some reason)
    (hcalled : s.system.coordinator.trigger.announced ≠ 0)
    (hat : System.StopAt modules s.system.holder s.system.stop)
    (hfree : ∀ index, s.system.holder ≠ .task index) :
    ∃ events t, s.follow events = some t ∧ t.listened = some reason.result := by
  have hsettle := hinformed.settle hreason hcalled
  have hlisten : s.follow (List.replicate 3 .listen) =
      some { s with listener := some (.returned reason) } := by
    simp only [List.replicate, follow, occur, hup, if_true, Option.bind_some, hlistener, Option.map_some]
    rw [← hsettle]
    rfl
  obtain ⟨n, t, hfollow, hover, hheard⟩ :=
    exists_stop_of_free (s := { s with listener := some (.returned reason) }) hup rfl hat hfree
  refine ⟨List.replicate 3 .listen ++ List.replicate n .stop, t, ?_, ?_⟩
  · rw [follow_append hlisten, hfollow]
  · rw [listened, if_pos hover, hheard]
    rfl

end

/-! ## The invariant -/

section

variable {π : Type} [Policy π] {s s' : Service (Faulty FileStores) π} {directory : DataDirectory}
  {modules : Nat} {listens : Bool}

/-- **What holds of a service and of who listens** at any time: it runs only when the start is over, the
stores are ready until the stop has entered, waiters have been called if a reason was accepted, the
listener knows what it has seen, and a handler that holds the lock is inside. -/
structure Attended (directory : DataDirectory) (modules : Nat) (listens : Bool)
    (s : Service (Faulty FileStores) π) : Prop where
  serves : Serves directory modules s
  sound : s.system.Sound (Faulty.separation FileStores.separation) modules
  isUp (h : s.state = .running) : s.isUp = true
  announced : s.system.coordinator.trigger.HasAnnounced
  informed {waiter : Waiter} (h : s.listener = some waiter) :
    Race.Informed s.system.coordinator.trigger waiter
  listens : s.listener.isSome = listens
  inside : s.system.HolderInside

omit [Policy π] in
theorem Attended.isOpen (h : Attended directory modules listens s)
    (haccepts : s.system.coordinator.state.acceptsMessages = true) : s.stores.IsOpen := by
  refine h.sound.ready fun hentered => ?_
  have hterminal := h.sound.terminal hentered
  cases hstate : s.system.coordinator.state <;>
    simp_all [Lifecycle.acceptsMessages, Lifecycle.isTerminal]

omit [Policy π] in
theorem attended_opened {config : Config} {fold : Fold} {disk disk' : FileSystem} {stores : FileStores}
    (htidy : ∀ here, disk.Tidy here) (hopen : FileStores.open config fold disk = .ok stores disk')
    (hheld : stores.directory = some directory) (faults : Faults) (policy : π) {calls : List Task}
    (hnew : ∀ task ∈ calls, task.isNew = true) (modules : Nat) (listens : Bool) :
    Attended directory modules listens (opened stores faults policy calls modules listens) where
  serves := serves_opened hheld faults policy hnew modules listens
  sound := by
    obtain ⟨here, entries, hthere⟩ := FileStores.inDirectory_of_open htidy hopen
    have hready : (Faulty.separation FileStores.separation).Ready ⟨stores, faults⟩ :=
      ⟨config.dataDirectory, here, entries, hthere⟩
    exact System.sound_initial _ hready hnew modules
  isUp h := by cases h
  announced := rfl
  informed h := by
    cases listens <;> cases h
    trivial
  listens := by cases listens <;> rfl
  inside := by
    intro index hholds
    cases hholds

theorem Attended.informed_occur {event : Event} (h : Attended directory modules listens s)
    (hstep : s.occur event = some s') {waiter : Waiter} (hwaiter : s'.listener = some waiter) :
    Race.Informed s'.system.coordinator.trigger waiter := by
  rcases listener_occur hstep with hsame | ⟨hsystem, hlistened⟩
  · exact keeps_of_system (P := fun s => Race.Informed s.coordinator.trigger waiter)
      System.informed_occur (h.informed (hsame.symm.trans hwaiter)) hstep
  · rw [hlistened] at hwaiter
    obtain ⟨before, hbefore, rfl⟩ := Option.map_eq_some_iff.1 hwaiter
    rw [hsystem]
    refine (h.informed hbefore).step fun hnone => ?_
    have hcalled := h.announced
    rwa [Trigger.HasAnnounced, hnone] at hcalled

/-- **One step** keeps the invariant. -/
theorem Attended.occur {event : Event} (h : Attended directory modules listens s)
    (hstep : s.occur event = some s') : Attended directory modules listens s' where
  serves := h.serves.occur hstep
  sound := keeps_of_system System.sound_occur h.sound hstep
  isUp hrunning := by
    refine isUp_occur hstep ?_
    by_cases hbefore : s.state = .running
    · exact .inr (h.isUp hbefore)
    · exact .inl (starting_of_step hstep hrunning hbefore).1
  announced := keeps_of_system System.announced_occur h.announced hstep
  informed hwaiter := h.informed_occur hstep hwaiter
  listens := by
    rcases listener_occur hstep with hsame | ⟨-, hlistened⟩
    · rw [hsame]
      exact h.listens
    · rw [hlistened, Option.isSome_map]
      exact h.listens
  inside := keeps_of_system System.HolderInside.occur h.inside hstep

/-- **A whole course** keeps the invariant. -/
theorem Attended.follow {events : List Event} (h : Attended directory modules listens s)
    (hfollow : s.follow events = some s') : Attended directory modules listens s' :=
  follow_keeps (P := Attended directory modules listens) (fun h hstep => h.occur hstep) h hfollow

/-- **Whoever listens gets the error** of the first failure, whatever happens behind it. -/
theorem Attended.listened_eq (h : Attended directory modules listens s) {error : CoordinatorError}
    (hreason : s.reason = some (.fatal error)) {events : List Event}
    {t : Service (Faulty FileStores) π} (hfollow : s.follow events = some t)
    {result : Except CoordinatorError Unit} (hresult : t.listened = some result) :
    result = .error error := by
  obtain ⟨reason, hsome, rfl⟩ := (h.follow hfollow).serves.listened_eq hresult
  rw [reason_follow_of_some hreason hfollow] at hsome
  cases hsome
  rfl

/-- A handler that is inside can finish, whatever its stores and its policy do. -/
theorem Attended.exists_free (h : Attended directory modules listens s) :
    ∃ events t, s.follow events = some t ∧ t.isUp = s.isUp ∧
      ∀ index, t.system.holder ≠ .task index := by
  by_cases hheld : ∃ index, s.system.holder = .task index
  · obtain ⟨index, hheld⟩ := hheld
    obtain ⟨call, point, htask⟩ := h.inside index hheld
    obtain ⟨n, hfollow⟩ := follow_inside htask
    refine ⟨_, _, hfollow, rfl, fun other hother => ?_⟩
    cases hother
  · exact ⟨[], s, rfl, rfl, fun index hindex => hheld ⟨index, hindex⟩⟩

/-- **Whoever listens can get it**, wherever a service has come to behind the first failure. -/
theorem Attended.exists_listened (h : Attended directory modules true s) (hup : s.isUp = true)
    {error : CoordinatorError} (hreason : s.reason = some (.fatal error)) :
    ∃ events t, s.follow events = some t ∧ t.listened = some (.error error) := by
  obtain ⟨events, t, hfollow, hsame, hfree⟩ := h.exists_free
  have ht := h.follow hfollow
  have hreason' := reason_follow_of_some hreason hfollow
  obtain ⟨waiter, hwaiter⟩ := Option.isSome_iff_exists.1 ht.listens
  have hcalled : t.system.coordinator.trigger.announced ≠ 0 := by
    have hcalled := ht.announced
    rw [Trigger.HasAnnounced, show t.system.coordinator.trigger.reason = _ from hreason'] at hcalled
    rw [hcalled]
    exact Nat.one_ne_zero
  obtain ⟨events', u, hfollow', hresult⟩ := Service.exists_listened (hsame.trans hup) hwaiter
    (ht.informed hwaiter) hreason' hcalled ht.sound.stopAt hfree
  exact ⟨events ++ events', u, (follow_append hfollow).trans hfollow', hresult⟩

end

end Service

/-! ## Results -/

namespace Handler

variable {π : Type} [Policy π] {call : Call} {start : Coordinator (Faulty FileStores) π}
  {report : Report (Faulty FileStores) π} {error : CoordinatorError}

theorem Report.Tells.shuts (h : report.Tells call start) (hresult : report.result = .error error)
    (hfailed : error.isNotRunning = false) : Shuts start report.coordinator error := by
  unfold Report.Tells at h
  rw [hresult] at h
  cases error with
  | notRunning state => cases hfailed
  | _ =>
    obtain ⟨-, -, -, -, hshuts⟩ := h
    exact hshuts

theorem accepts_of_failed (hresult : (handle call start).1 = .error error)
    (hfailed : error.isNotRunning = false) : start.state.acceptsMessages = true := by
  cases haccepts : start.state.acceptsMessages with
  | true => rfl
  | false =>
    rw [handle_of_refuses call haccepts] at hresult
    cases hresult
    cases hfailed

end Handler

namespace Service

/-- **The result of a handler call tells exactly what it did.** A coordinator has been opened over a
data directory, its policy and the calls on its stores fail in any way, and its start, calls, signals, a
listener and a stop have taken steps in any order; then a call with a message, created here or
received, is made with nobody in between. Its result tells which deeds it did and what has become of
queue, history, digest, trigger and state (`Handler.Report.Tells`). If it ended with another error than
a rejection and nothing was fatal before, then whoever listens gets no other result than this error,
and can get it wherever the service has come to by then. -/
theorem result_tells {π : Type} [Policy π] {config : Config} {fold : Fold} {disk disk' : FileSystem}
    {stores : FileStores} (htidy : ∀ here, disk.Tidy here)
    (hopen : FileStores.open config fold disk = .ok stores disk') (faults : Faults) (policy : π)
    {calls : List Task} (hnew : ∀ task ∈ calls, task.isNew = true) (modules : Nat) (listens : Bool)
    {before : List Event} {s : Service (Faulty FileStores) π}
    (hbefore : (opened stores faults policy calls modules listens).follow before = some s)
    {index : Nat} {call : Handler.Call} (hwaits : s.system.tasks[index]? = some (.waiting call))
    (hfree : s.system.holder = .nobody) :
    let report := Handler.report call .check s.system.coordinator
    report.Tells call s.system.coordinator ∧
      ∃ n t, s.follow (List.replicate n (.call index)) = some t ∧
        t.system.coordinator = report.coordinator ∧
        t.system.tasks[index]? = some (.returned call report.result) ∧
        ∀ error, report.result = .error error → error.isNotRunning = false →
          s.system.coordinator.isShuttingDown = false →
          ∀ after u, t.follow after = some u →
            (∀ result, u.listened = some result → result = .error error) ∧
            (listens = true →
              ∃ more v, u.follow more = some v ∧ v.listened = some (.error error)) := by
  intro report
  obtain ⟨directory, hheld⟩ := FileStores.directory_of_open hopen
  have hs : Attended directory modules listens s :=
    (attended_opened htidy hopen hheld faults policy hnew modules listens).follow hbefore
  have htells : report.Tells call s.system.coordinator := Handler.report_tells hs.isOpen call
  obtain ⟨n, t, hcall, hcoordinator, hreturned, hup⟩ := follow_call hwaits hfree
  refine ⟨htells, n, t, hcall, hcoordinator, hreturned,
    fun error hresult hfailed harmed after u hafter => ?_⟩
  have ht : Attended directory modules listens t := hs.follow hcall
  have hreason : t.reason = some (.fatal error) := by
    rw [reason, hcoordinator]
    exact ((htells.shuts hresult hfailed).1 harmed).1
  refine ⟨fun result hresult => ht.listened_eq hreason hafter hresult, ?_⟩
  rintro rfl
  -- A call that was not turned away at its check found the coordinator running.
  have hrunning : s.state = .running := of_decide_eq_true (Handler.accepts_of_failed hresult hfailed)
  have hup' : u.isUp = true := follow_keeps (P := fun s => s.isUp = true)
    (fun hup hstep => isUp_occur hstep (.inr hup)) (hup.trans (hs.isUp hrunning)) hafter
  exact (ht.follow hafter).exists_listened hup' (reason_follow_of_some hreason hafter)

end Service

/-! ## A push that fails -/

namespace Handler

variable {σ π : Type} [MessageStores σ] [Policy π] {call : Call}

/-- So many moves of a call, one after another. -/
def moves (call : Call) : Nat → Point × Coordinator σ π → Point × Coordinator σ π
  | 0, stand => stand
  | n + 1, stand => moves call n (step call stand.1 stand.2)

theorem run_of_moves {n : Nat} {point : Point} {c c' : Coordinator σ π}
    {result : Except CoordinatorError Outcome}
    (h : moves call n (point, c) = (.finished result, c')) : run call point c = (result, c') := by
  induction n generalizing point c with
  | zero =>
    cases h
    unfold run
    rfl
  | succ n ih =>
    cases hleft : point.result? with
    | none =>
      rw [run_of_left call c hleft]
      exact ih h
    | some result' =>
      cases point with
      | finished result'' => exact ih h
      | _ => cases hleft

end Handler

namespace Service

/-- A message created here. -/
def firstMessage : Handler.Call := ⟨⟨⟨1⟩, []⟩, .local⟩

/-- Why the first push fails. -/
def outOfReach : CoordinatorError := .store (.storage (.corrupted "out of reach"))

/-- A coordinator that runs and is listened to, and whose first push will fail. -/
def aboutToFail : Option (FileStores × FileSystem × Service (Faulty FileStores) RecordingPolicy) :=
  match FileStores.open { dataDirectory := "/data" } .sum {} with
  | .error .. => none
  | .ok stores disk => do
    let s ← (opened stores System.firstPushFails ({} : RecordingPolicy) [.waiting firstMessage] 1
      true).follow [.startModule, .ready]
    return (stores, disk, s)

theorem runs_of_aboutToFail {stores : FileStores} {disk : FileSystem}
    {s : Service (Faulty FileStores) RecordingPolicy} (h : aboutToFail = some (stores, disk, s)) :
    FileStores.open { dataDirectory := "/data" } .sum {} = .ok stores disk ∧
      (opened stores System.firstPushFails ({} : RecordingPolicy) [.waiting firstMessage] 1
        true).follow [.startModule, .ready] = some s := by
  unfold aboutToFail at h
  split at h
  · cases h
  · rename_i hopen
    obtain ⟨s', hs, h⟩ := Option.bind_eq_some_iff.1 h
    cases h
    exact ⟨hopen, hs⟩

/-- Whether nothing has been fatal and the first message, handled in one go, ends with this error. -/
def willFailWith (error : CoordinatorError) (s : Service (Faulty FileStores) RecordingPolicy) : Bool :=
  match s.system.tasks, (Handler.moves firstMessage 8 (.check, s.system.coordinator)).1 with
  | [.waiting call], .finished (.error error') =>
    call = firstMessage && error' = error && s.system.holder = .nobody &&
      !s.system.coordinator.isShuttingDown
  | _, _ => false

/-- The digest has advanced, the history has not, and whoever listens can get the error. -/
theorem result_tells_pushFails :
    ∃ stores disk, ∃ s t : Service (Faulty FileStores) RecordingPolicy,
      aboutToFail = some (stores, disk, s) ∧
      t.system.tasks[0]? = some (.returned firstMessage (.error outOfReach)) ∧
      (Handler.held t.system.coordinator).snapshot = Handler.next firstMessage s.system.coordinator ∧
      (Handler.held t.system.coordinator).stack = (Handler.held s.system.coordinator).stack ∧
      t.state = .fatalShutdown ∧ ∃ after u, t.follow after = some u ∧
        u.listened = some (.error outOfReach) := by
  have heval : aboutToFail.any (fun run => willFailWith outOfReach run.2.2) = true := by
    decide +kernel
  obtain ⟨⟨stores, disk, s⟩, hruns, hwill⟩ := (Option.any_eq_true ..).1 heval
  obtain ⟨hopen, hbefore⟩ := runs_of_aboutToFail hruns
  dsimp only at hwill
  unfold willFailWith at hwill
  split at hwill
  · rename_i call error htasks hmoves
    simp only [Bool.and_eq_true, Bool.not_eq_true', decide_eq_true_eq] at hwill
    obtain ⟨⟨⟨rfl, rfl⟩, hfree⟩, harmed⟩ := hwill
    have hnew : ∀ task ∈ [Task.waiting firstMessage], task.isNew = true := by decide
    have hwaits : s.system.tasks[0]? = some (.waiting firstMessage) := by
      rw [htasks]
      rfl
    obtain ⟨htells, n, t, -, hcoordinator, hreturned, hlistened⟩ :=
      result_tells FileSystem.tidy_nothing hopen System.firstPushFails ({} : RecordingPolicy) hnew 1 true
        hbefore hwaits hfree
    have hresult : (Handler.report firstMessage .check s.system.coordinator).result =
        .error outOfReach := congrArg Prod.fst (Handler.run_of_moves (Prod.ext hmoves rfl))
    obtain ⟨-, hgets⟩ := hlistened outOfReach hresult rfl harmed [] t rfl
    have hshuts := (htells.shuts hresult rfl).1 harmed
    unfold Handler.Report.Tells at htells
    rw [hresult] at htells
    obtain ⟨done, -, hfails, -⟩ := htells
    rw [hresult] at hreturned
    rw [← hcoordinator] at hfails hshuts
    obtain ⟨hsnapshot, hstack⟩ := hfails.advances
    exact ⟨stores, disk, s, t, hruns, hreturned, hsnapshot, hstack, hshuts.2, hgets rfl⟩
  · cases hwill

end Service

end Replica
