/-
The shutdown trigger under every interleaving.

Any number of calls fire one trigger while any number of waiters wait for it. A fire is
two steps: its reason is accepted or dropped, and behind an accepted one the waiters are
called. A wait is three: it takes a ticket, looks and goes to sleep (`Waiter.step`). The
invariant `Race.Latched` says that the calls whose reason was accepted are exactly those
the latch speaks of, and that a ticket with which a waiter found nothing was handed out
before anybody was called. It is kept by each step (`Latched.next`), so by every run,
and the latch is set exactly once and wakes everybody up (`fires_once`).
-/
import Replica.Coordinator.Trigger
import Mathlib.Data.List.Basic

namespace Replica

/-- A call that fires a trigger. -/
inductive Fire
  /-- Has not begun. -/
  | calling (reason : ShutdownReason)
  /-- Its reason has been accepted and the waiters have not been called. -/
  | accepted (reason : ShutdownReason)
  | returned (reason : ShutdownReason) (won : Bool)
  deriving DecidableEq, Repr

namespace Fire

/-- The next step of a call, and the trigger behind it. -/
def step (trigger : Trigger) : Fire → Fire × Trigger
  | calling reason =>
    match trigger.accept reason with
    | (true, trigger') => (accepted reason, trigger')
    | (false, trigger') => (returned reason false, trigger')
  | accepted reason => (returned reason true, trigger.announce)
  | returned reason won => (returned reason won, trigger)

/-- The reason a call was made with. -/
def reason : Fire → ShutdownReason
  | calling reason | accepted reason | returned reason _ => reason

/-- Whether a call has done anything. -/
def hasBegun : Fire → Bool
  | calling _ => false
  | accepted _ | returned .. => true

/-- What a call has returned. -/
def answer? : Fire → Option Bool
  | returned _ won => some won
  | calling _ | accepted _ => none

/-- Whether a call has still to call the waiters. -/
def isAccepted : Fire → Bool
  | accepted _ => true
  | calling _ | returned .. => false

/-- The reason of a call, if it was accepted. -/
def won? : Fire → Option ShutdownReason
  | accepted reason | returned reason true => some reason
  | calling _ | returned _ false => none

/-- Two steps of a call that nobody interrupts are one fire of the trigger. -/
theorem step_step (reason : ShutdownReason) (trigger : Trigger) :
    let begun := (calling reason).step trigger
    begun.1.step begun.2 = (returned reason (trigger.fire reason).1, (trigger.fire reason).2) := by
  obtain ⟨before, announced⟩ := trigger
  cases before <;> rfl

/-- **What a step of a call does**: it is the first and accepted, it comes too late, it calls the
waiters, or it has returned. -/
theorem step_cases (trigger : Trigger) (fire : Fire) :
    (∃ reason, fire = calling reason ∧ trigger.reason = none ∧
      fire.step trigger = (accepted reason, { trigger with reason := some reason })) ∨
    (∃ reason first, fire = calling reason ∧ trigger.reason = some first ∧
      fire.step trigger = (returned reason false, trigger)) ∨
    (∃ reason, fire = accepted reason ∧
      fire.step trigger = (returned reason true, trigger.announce)) ∨
    (∃ reason won, fire = returned reason won ∧ fire.step trigger = (fire, trigger)) := by
  cases fire with
  | calling reason =>
    cases hreason : trigger.reason with
    | none => exact .inl ⟨reason, rfl, rfl, by simp only [step, Trigger.accept, hreason]⟩
    | some first =>
      exact .inr (.inl ⟨reason, first, rfl, rfl, by simp only [step, Trigger.accept, hreason]⟩)
  | accepted reason => exact .inr (.inr (.inl ⟨reason, rfl, rfl⟩))
  | returned reason won => exact .inr (.inr (.inr ⟨reason, won, rfl, rfl⟩))

theorem reason_step (trigger : Trigger) (fire : Fire) : (fire.step trigger).1.reason = fire.reason := by
  obtain ⟨reason, rfl, -, hstep⟩ | ⟨reason, -, rfl, -, hstep⟩ | ⟨reason, rfl, hstep⟩ |
    ⟨reason, won, rfl, hstep⟩ := step_cases trigger fire <;>
  rw [hstep] <;> rfl

end Fire

/-- A trigger, the calls that fire it and those who wait for it. -/
structure Race where
  trigger : Trigger
  fires : List Fire
  waiters : List Waiter

namespace Race

/-- Whose step is next. -/
inductive Turn
  | fire (i : Nat)
  | wait (i : Nat)
  deriving DecidableEq, Repr

/-- Nobody has begun: a call for each of the reasons, and a number of waiters. -/
def start (reasons : List ShutdownReason) (waiters : Nat) : Race where
  trigger := .armed
  fires := reasons.map .calling
  waiters := List.replicate waiters .outside

/-- One step of one call or of one waiter. -/
def next (race : Race) : Turn → Race
  | .fire i =>
    match race.fires[i]? with
    | none => race
    | some fire =>
      let (fire', trigger) := fire.step race.trigger
      { race with trigger, fires := race.fires.set i fire' }
  | .wait i => { race with waiters := race.waiters.modify i (·.step race.trigger) }

/-- Steps in any order. -/
def run (race : Race) (turns : List Turn) : Race := turns.foldl next race

/-- The reasons of the calls that were accepted. -/
def winners (race : Race) : List ShutdownReason := race.fires.filterMap Fire.won?

/-- What each call has returned. -/
def answers (race : Race) : List (Option Bool) := race.fires.map Fire.answer?

variable {race : Race}

/-- What a waiter knows of the latch. -/
def Informed (trigger : Trigger) : Waiter → Prop
  | .outside => True
  | .ticketed ticket => ticket ≤ trigger.announced
  -- it looked before anybody was called
  | .looked ticket | .parked ticket => ticket = 0
  | .returned reason => trigger.reason = some reason

/-- **What holds of a race at any time.** -/
structure Latched (race : Race) : Prop where
  /-- The call that won is the one whose reason the latch keeps. -/
  winners : race.winners = race.trigger.reason.toList
  /-- A latch without a reason has not been fired. -/
  begun : race.trigger.reason = none → ∀ fire ∈ race.fires, fire.hasBegun = false
  /-- Waiters are called once, by the call that won. -/
  called : race.trigger.announced + race.fires.countP Fire.isAccepted =
    race.trigger.reason.toList.length
  informed : ∀ waiter ∈ race.waiters, Informed race.trigger waiter

/-! ## One step -/

theorem latched_start (reasons : List ShutdownReason) (waiters : Nat) :
    (start reasons waiters).Latched where
  winners := by simp [Race.winners, start, Trigger.armed, List.filterMap_map, Function.comp_def, Fire.won?]
  begun _ fire h := by
    obtain ⟨reason, -, rfl⟩ := List.mem_map.1 h
    rfl
  called := by simp [start, Trigger.armed, List.countP_map, Function.comp_def, Fire.isAccepted]
  informed waiter h := by
    rw [(List.mem_replicate.1 h).2]
    trivial

theorem Informed.accept {trigger : Trigger} {waiter : Waiter} (h : Informed trigger waiter)
    (reason : ShutdownReason) (hfirst : trigger.reason = none) :
    Informed { trigger with reason := some reason } waiter := by
  cases waiter with
  | outside | ticketed | looked | parked => exact h
  | returned reason' => exact absurd (hfirst.symm.trans h) nofun

theorem Informed.announce {trigger : Trigger} {waiter : Waiter} (h : Informed trigger waiter) :
    Informed trigger.announce waiter := by
  cases waiter with
  | outside | looked | parked | returned => exact h
  | ticketed ticket => exact Nat.le_succ_of_le h

theorem Informed.step {trigger : Trigger} {waiter : Waiter} (h : Informed trigger waiter)
    (hcalled : trigger.reason = none → trigger.announced = 0) :
    Informed trigger (waiter.step trigger) := by
  cases waiter with
  | outside => exact Nat.le_refl _
  | ticketed ticket =>
    simp only [Waiter.step]
    cases hreason : trigger.reason with
    | some reason => exact hreason
    | none => exact Nat.le_zero.1 (hcalled hreason ▸ h)
  | looked ticket | parked ticket =>
    simp only [Waiter.step]
    split
    · trivial
    · exact h
  | returned reason => exact h

theorem Latched.announced_eq_zero (h : race.Latched) (hreason : race.trigger.reason = none) :
    race.trigger.announced = 0 := by
  have hcalled := h.called
  rw [hreason] at hcalled
  exact (Nat.add_eq_zero_iff.1 hcalled).1

theorem Latched.next_wait (h : race.Latched) (i : Nat) : (race.next (.wait i)).Latched where
  winners := h.winners
  begun := h.begun
  called := h.called
  informed waiter hmem := by
    obtain ⟨j, hj, rfl⟩ := List.getElem_of_mem hmem
    simp only [next, List.getElem_modify]
    have hold := h.informed _ (List.getElem_mem (by simpa [next] using hj))
    split
    · exact hold.step h.announced_eq_zero
    · exact hold

theorem next_fire {i : Nat} {fire : Fire} (hi : race.fires[i]? = some fire) :
    ∃ before behind, race.fires = before ++ fire :: behind ∧
      race.next (.fire i) =
        { race with trigger := (fire.step race.trigger).2,
                    fires := before ++ (fire.step race.trigger).1 :: behind } := by
  obtain ⟨hlt, rfl⟩ := List.getElem?_eq_some_iff.1 hi
  obtain ⟨before, behind, hsplit, -, hset⟩ : ∃ before behind,
      race.fires = before ++ race.fires[i] :: behind ∧ before.length = i ∧
        race.fires.set i (race.fires[i].step race.trigger).1 =
          before ++ (race.fires[i].step race.trigger).1 :: behind := List.exists_of_set hlt
  refine ⟨before, behind, hsplit, ?_⟩
  simp only [next, hi, hset]

theorem filterMap_won?_of_not_begun {fires : List Fire}
    (h : ∀ fire ∈ fires, fire.hasBegun = false) : fires.filterMap Fire.won? = [] := by
  refine List.filterMap_eq_nil_iff.2 fun fire hmem => ?_
  cases fire with
  | calling reason => rfl
  | accepted | returned => cases h _ hmem

theorem Latched.next_fire (h : race.Latched) (i : Nat) : (race.next (.fire i)).Latched := by
  cases hi : race.fires[i]? with
  | none =>
    simp only [next, hi]
    exact h
  | some fire =>
    obtain ⟨before, behind, hsplit, hnext⟩ := Race.next_fire hi
    have hwinners := h.winners
    have hcalled := h.called
    have hbegun := h.begun
    simp only [Race.winners, hsplit, List.filterMap_append, List.filterMap_cons] at hwinners
    simp only [hsplit, List.countP_append, List.countP_cons] at hcalled
    rw [hsplit] at hbegun
    rw [hnext]
    obtain ⟨reason, rfl, hnone, hstep⟩ | ⟨reason, first, rfl, hsome, hstep⟩ | ⟨reason, rfl, hstep⟩ |
      ⟨reason, won, rfl, hstep⟩ := Fire.step_cases race.trigger fire <;> rw [hstep]
    · -- the first reason: nobody has begun before, so nobody has won before
      have hidle := hbegun hnone
      have hbefore := filterMap_won?_of_not_begun fun fire hmem =>
        hidle fire (List.mem_append_left _ hmem)
      have hbehind := filterMap_won?_of_not_begun fun fire hmem =>
        hidle fire (List.mem_append_right _ (List.mem_cons_of_mem _ hmem))
      refine ⟨?_, nofun, ?_, fun waiter hmem => (h.informed waiter hmem).accept reason hnone⟩
      · simp only [Race.winners, List.filterMap_append, List.filterMap_cons, Fire.won?, hbefore,
          hbehind, Option.toList_some, List.nil_append]
      · simp only [List.countP_append, List.countP_cons, Fire.isAccepted, hnone, Option.toList_none,
          Option.toList_some, List.length_nil, List.length_cons, if_true, Bool.false_eq_true,
          if_false] at hcalled ⊢
        omega
    · refine ⟨?_, fun hnone => absurd (hnone.symm.trans hsome) nofun, ?_, h.informed⟩
      · simpa only [Race.winners, List.filterMap_append, List.filterMap_cons, Fire.won?] using hwinners
      · simpa only [List.countP_append, List.countP_cons, Fire.isAccepted, Bool.false_eq_true,
          if_false] using hcalled
    · refine ⟨?_, fun hnone => ?_, ?_, fun waiter hmem => (h.informed waiter hmem).announce⟩
      · simpa only [Race.winners, List.filterMap_append, List.filterMap_cons, Fire.won?,
          Trigger.announce] using hwinners
      · exact absurd (hbegun hnone (.accepted reason) (by simp)) nofun
      · simp only [List.countP_append, List.countP_cons, Fire.isAccepted, Trigger.announce, if_true,
          Bool.false_eq_true, if_false] at hcalled ⊢
        omega
    · rw [← hsplit]
      exact h

/-- **One step** keeps the latch. -/
theorem Latched.next (h : race.Latched) (turn : Turn) : (race.next turn).Latched := by
  cases turn with
  | fire i => exact h.next_fire i
  | wait i => exact h.next_wait i

theorem reasons_next (race : Race) (turn : Turn) :
    (race.next turn).fires.map Fire.reason = race.fires.map Fire.reason := by
  cases turn with
  | wait i => rfl
  | fire i =>
    cases hi : race.fires[i]? with
    | none => simp only [next, hi]
    | some fire =>
      obtain ⟨before, behind, hsplit, hnext⟩ := next_fire hi
      simp only [hnext, hsplit, List.map_append, List.map_cons, Fire.reason_step]

theorem waiters_next (race : Race) (turn : Turn) :
    (race.next turn).waiters.length = race.waiters.length := by
  cases turn with
  | wait i => exact List.length_modify _ _ _
  | fire i =>
    cases hi : race.fires[i]? with
    | none => simp only [next, hi]
    | some fire =>
      obtain ⟨before, behind, hsplit, hnext⟩ := next_fire hi
      rw [hnext]

theorem reason_next {reason : ShutdownReason} (h : race.trigger.reason = some reason) (turn : Turn) :
    (race.next turn).trigger.reason = some reason := by
  cases turn with
  | wait i => exact h
  | fire i =>
    cases hi : race.fires[i]? with
    | none => simpa only [next, hi] using h
    | some fire =>
      obtain ⟨before, behind, hsplit, hnext⟩ := next_fire hi
      rw [hnext]
      obtain ⟨-, rfl, hnone, -⟩ | ⟨late, first, rfl, -, hstep⟩ | ⟨first, rfl, hstep⟩ |
        ⟨first, won, rfl, hstep⟩ := Fire.step_cases race.trigger fire
      · exact absurd (hnone.symm.trans h) nofun
      all_goals rw [hstep]; exact h

theorem Latched.trigger_next (h : race.Latched) (hcalled : race.trigger.announced ≠ 0) (turn : Turn) :
    (race.next turn).trigger = race.trigger := by
  cases turn with
  | wait i => rfl
  | fire i =>
    cases hi : race.fires[i]? with
    | none => simp only [Race.next, hi]
    | some fire =>
      obtain ⟨before, behind, hsplit, hnext⟩ := Race.next_fire hi
      rw [hnext]
      obtain ⟨-, rfl, hnone, -⟩ | ⟨late, first, rfl, -, hstep⟩ | ⟨first, rfl, hstep⟩ |
        ⟨first, won, rfl, hstep⟩ := Fire.step_cases race.trigger fire
      · exact absurd (h.announced_eq_zero hnone) hcalled
      · rw [hstep]
      · -- nobody is left who would call them again
        have hpos : 0 < race.fires.countP Fire.isAccepted :=
          List.countP_pos_iff.2 ⟨.accepted first, by simp [hsplit], rfl⟩
        have hone := h.called
        have hle : race.trigger.reason.toList.length ≤ 1 := by
          cases race.trigger.reason <;> simp
        omega
      · rw [hstep]

/-! ## A whole run -/

theorem run_keeps {P : Race → Prop} (hstep : ∀ race turn, P race → P (race.next turn)) (h : P race)
    (turns : List Turn) : P (race.run turns) := by
  induction turns generalizing race with
  | nil => exact h
  | cons turn turns ih => exact ih (hstep race turn h)

/-- **A whole run** keeps the latch. -/
theorem latched_run (reasons : List ShutdownReason) (waiters : Nat) (turns : List Turn) :
    ((start reasons waiters).run turns).Latched :=
  run_keeps (fun _ turn h => h.next turn) (latched_start reasons waiters) turns

theorem members_run (reasons : List ShutdownReason) (waiters : Nat) (turns : List Turn) :
    ((start reasons waiters).run turns).fires.map Fire.reason = reasons ∧
      ((start reasons waiters).run turns).waiters.length = waiters := by
  refine run_keeps (P := fun race => race.fires.map Fire.reason = reasons ∧
    race.waiters.length = waiters) (fun race turn h => ?_) ?_ turns
  · exact ⟨(reasons_next race turn).trans h.1, (waiters_next race turn).trans h.2⟩
  · simp [start, Function.comp_def, Fire.reason]

/-- Once the waiters have been called the trigger stays as it is, whatever is done. -/
theorem Latched.trigger_run (h : race.Latched) (hcalled : race.trigger.announced ≠ 0)
    (turns : List Turn) : (race.run turns).trigger = race.trigger := by
  refine (run_keeps (P := fun later => later.Latched ∧ later.trigger = race.trigger)
    (fun later turn hlater => ⟨hlater.1.next turn, ?_⟩) ⟨h, rfl⟩ turns).2
  exact (hlater.1.trigger_next (hlater.2 ▸ hcalled) turn).trans hlater.2

/-! ## What is seen -/

/-- A call that won has the waiters still to call, or has returned true. -/
theorem length_winners (race : Race) :
    race.winners.length = race.fires.countP Fire.isAccepted + race.answers.count (some true) := by
  rw [winners, answers]
  induction race.fires with
  | nil => rfl
  | cons fire fires ih =>
    rw [List.filterMap_cons, List.countP_cons, List.map_cons, List.count_cons]
    cases fire with
    | calling reason => exact ih
    | accepted reason =>
      simp only [Fire.won?, Fire.isAccepted, Fire.answer?, List.length_cons, ih]
      exact Nat.succ_add _ _ |>.symm
    | returned reason won =>
      cases won with
      | false => exact ih
      | true => exact congrArg Nat.succ ih

theorem Latched.isFired_iff (h : race.Latched) :
    race.trigger.isFired = true ↔ ∃ fire ∈ race.fires, fire.hasBegun = true := by
  constructor
  · intro hfired
    obtain ⟨reason, hreason⟩ := Option.isSome_iff_exists.1 hfired
    have hmem : reason ∈ race.winners := by simp [h.winners, hreason]
    obtain ⟨fire, hfire, hwon⟩ := List.mem_filterMap.1 hmem
    refine ⟨fire, hfire, ?_⟩
    cases fire with
    | calling reason' => cases hwon
    | accepted | returned => rfl
  · rintro ⟨fire, hfire, hbegun⟩
    cases hreason : race.trigger.reason with
    | some reason => simp [Trigger.isFired, hreason]
    | none => exact absurd ((h.begun hreason fire hfire).symm.trans hbegun) nofun

/-- When all calls have returned, one has returned true. -/
theorem Latched.count_answers (h : race.Latched) (hsome : race.fires ≠ [])
    (hdone : none ∉ race.answers) : race.answers.count (some true) = 1 := by
  have hreturned : ∀ fire ∈ race.fires, ∃ reason won, fire = .returned reason won := by
    intro fire hfire
    have hanswer : fire.answer? ≠ none := fun heq => hdone (heq ▸ List.mem_map_of_mem hfire)
    cases fire with
    | calling reason | accepted reason => exact absurd rfl hanswer
    | returned reason won => exact ⟨reason, won, rfl⟩
  have hnone : race.fires.countP Fire.isAccepted = 0 := by
    refine List.countP_eq_zero.2 fun fire hfire => ?_
    obtain ⟨reason, won, rfl⟩ := hreturned fire hfire
    exact Bool.false_ne_true
  obtain ⟨fire, hfire⟩ := List.exists_mem_of_ne_nil _ hsome
  obtain ⟨_, _, rfl⟩ := hreturned fire hfire
  obtain ⟨reason, hreason⟩ := Option.isSome_iff_exists.1 (h.isFired_iff.2 ⟨_, hfire, rfl⟩)
  have hlength := length_winners race
  rw [hnone, h.winners, hreason, Nat.zero_add] at hlength
  exact hlength.symm

/-- When a call has returned true, its reason is the one the latch keeps and everybody has been
called. -/
theorem Latched.called_of_returned (h : race.Latched) {reason : ShutdownReason}
    (hreturned : .returned reason true ∈ race.fires) :
    race.trigger.reason = some reason ∧ race.trigger.announced ≠ 0 := by
  have hmem : reason ∈ race.winners := List.mem_filterMap.2 ⟨_, hreturned, rfl⟩
  have hreason : race.trigger.reason = some reason := by simpa [h.winners] using hmem
  have hpos : 0 < race.answers.count (some true) :=
    List.count_pos_iff.2 (List.mem_map_of_mem (f := Fire.answer?) hreturned)
  have hlength := length_winners race
  have hcalled := h.called
  rw [h.winners] at hlength
  exact ⟨hreason, by omega⟩

/-- A waiter that is called gets the reason in at most three steps. -/
theorem Informed.settle {trigger : Trigger} {waiter : Waiter} {reason : ShutdownReason}
    (h : Informed trigger waiter) (hreason : trigger.reason = some reason)
    (hcalled : trigger.announced ≠ 0) : waiter.settle trigger = .returned reason := by
  have hall : trigger.hasCalled 0 = true := decide_eq_true (Nat.pos_of_ne_zero hcalled)
  cases waiter with
  | outside | ticketed ticket => simp only [Waiter.settle, Waiter.step, hreason]
  | looked ticket | parked ticket =>
    obtain rfl : ticket = 0 := h
    simp only [Waiter.settle, Waiter.step, hall, if_true, hreason]
  | returned reason' =>
    obtain rfl : reason' = reason := Option.some.inj (Eq.trans (Eq.symm h) hreason)
    rfl

end Race

/-- **The trigger is a latch that is set exactly once and wakes everybody up.** Any number of calls
fire it, each with a reason of its own, and any number of waiters wait for it; their steps come in any
order. The calls that won are those of which the latch keeps the reason: none while no call has
begun, and one from then on, which is the one that returns true. The reason never changes and is what
every wait returns. Once the call that won has returned nobody sleeps who has not been
called, nothing changes the trigger any more, and each waiter gets the reason by steps of its own. -/
theorem Race.fires_once (reasons : List ShutdownReason) (waiters : Nat) (turns more : List Turn) :
    let race := (start reasons waiters).run turns
    let later := race.run more
    race.fires.map Fire.reason = reasons ∧ race.waiters.length = waiters ∧
      race.winners = race.trigger.reason.toList ∧
      (race.trigger.isFired = true ↔ ∃ fire ∈ race.fires, fire.hasBegun = true) ∧
      (reasons ≠ [] → none ∉ race.answers → race.answers.count (some true) = 1) ∧
      (∀ reason, race.trigger.reason = some reason → later.trigger.reason = some reason) ∧
      (∀ reason, .returned reason ∈ race.waiters → race.trigger.reason = some reason) ∧
      ∀ reason, .returned reason true ∈ race.fires →
        race.trigger.reason = some reason ∧ later.trigger = race.trigger ∧
          (∀ ticket, .parked ticket ∈ race.waiters → race.trigger.hasCalled ticket = true) ∧
          ∀ waiter ∈ race.waiters, waiter.settle race.trigger = .returned reason := by
  intro race later
  have hlatched : race.Latched := latched_run reasons waiters turns
  obtain ⟨hreasons, hwaiters⟩ := members_run reasons waiters turns
  refine ⟨hreasons, hwaiters, hlatched.winners, hlatched.isFired_iff, fun hsome => ?_,
    fun reason hreason => ?_, fun reason hmem => hlatched.informed _ hmem, fun reason hreturned => ?_⟩
  · exact hlatched.count_answers fun hnil => hsome (by rw [← hreasons]; simp [race, hnil])
  · exact run_keeps (P := fun race => race.trigger.reason = some reason)
      (fun _ turn h => reason_next h turn) hreason more
  · obtain ⟨hreason, hcalled⟩ := hlatched.called_of_returned hreturned
    refine ⟨hreason, hlatched.trigger_run hcalled more, fun ticket hmem => ?_, fun waiter hmem =>
      (hlatched.informed waiter hmem).settle hreason hcalled⟩
    obtain rfl : ticket = 0 := hlatched.informed _ hmem
    exact decide_eq_true (Nat.pos_of_ne_zero hcalled)

/-- The waiter looks before the first reason is accepted and goes to sleep behind it; the other call
comes too late. -/
example :
    let race := (Race.start [.signal .interrupt, .fatal (.other "disk full")] 1).run
      [.wait 0, .wait 0, .fire 1, .fire 0, .wait 0, .fire 1]
    race.fires = [.returned (.signal .interrupt) false, .returned (.fatal (.other "disk full")) true] ∧
      race.waiters = [.parked 0] ∧
      (race.run [.wait 0, .wait 0, .wait 0]).waiters = [.returned (.fatal (.other "disk full"))] := by
  decide

end Replica
