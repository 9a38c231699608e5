/-
What recording modules leave in the journal and what they ask of their coordinator.

Modules start in order up to the first that fails; the first of them that asks for a
shutdown has its reason accepted (`Strategy.startAll_recording`, `requested_eq`). Taking
down asks every module to stop before it waits for the first, and closes the stores after
it has waited for the last (`tearDown_recording`).
-/
import Replica.Proofs.Strategy

namespace Replica

section

variable {σ π : Type} {c : Coordinator σ π} {error : CoordinatorError}

namespace Coordinator

/-- **The first request for a shutdown** is accepted, and noted unless teardown has begun. -/
theorem shutdown_of_armed (h : c.trigger.reason = none) (error : CoordinatorError) :
    (c.shutdown error).1 = true ∧ (c.shutdown error).2.trigger.reason = some (.fatal error) ∧
      (c.state = .starting ∨ c.state = .running → (c.shutdown error).2.state = .fatalShutdown) := by
  simp only [shutdown, offer, Trigger.fire, Trigger.accept, h, noteFatal]
  split <;> simp_all [Trigger.announce]

theorem shutdown_of_fired {reason : ShutdownReason} (h : c.trigger.reason = some reason)
    (error : CoordinatorError) : c.shutdown error = (false, c) := by
  simp only [shutdown, offer, Trigger.fire, Trigger.accept, h]

end Coordinator

namespace RecordingModule

/-- The marks of modules that start. -/
def starts (plans : List RecordingModule) : List Event := plans.map fun m => .mark (startMark m.name)

/-- The marks of modules that are asked to stop. -/
def stops (plans : List RecordingModule) : List Event := plans.map fun m => .mark (stopMark m.name)

/-- The marks of modules that are waited for while the stores are open. -/
def waits (plans : List RecordingModule) : List Event := plans.map fun m => .mark (waitMark m.name true)

/-- The modules before the first that fails to start. -/
def beforeFailure (plans : List RecordingModule) : List RecordingModule :=
  plans.takeWhile (!·.failStart)

/-- The reason of the first module that asks for a shutdown while it starts. -/
def request? (plans : List RecordingModule) : Option CoordinatorError :=
  (plans.find? (·.shutdownOnStart)).map (startError ·.name)

/-- A coordinator after modules have started. -/
def requested (plans : List RecordingModule) (c : Coordinator σ π) : Coordinator σ π :=
  plans.foldl (fun c m => if m.shutdownOnStart then (c.shutdown (startError m.name)).2 else c) c

theorem requested_of_fired {reason : ShutdownReason} (h : c.trigger.reason = some reason)
    (plans : List RecordingModule) : requested plans c = c := by
  induction plans with
  | nil => rfl
  | cons m rest ih =>
    rw [requested, List.foldl_cons]
    split
    · rw [Coordinator.shutdown_of_fired h]
      exact ih
    · exact ih

/-- **Of several requests the first counts.** -/
theorem requested_eq (h : c.trigger.reason = none) (plans : List RecordingModule) :
    requested plans c = match request? plans with
      | none => c
      | some error => (c.shutdown error).2 := by
  induction plans with
  | nil => rfl
  | cons m rest ih =>
    rw [requested, List.foldl_cons, request?, List.find?_cons]
    cases hm : m.shutdownOnStart with
    | false => exact ih
    | true =>
      obtain ⟨-, hreason, -⟩ := Coordinator.shutdown_of_armed h (startError m.name)
      exact requested_of_fired hreason rest

theorem beforeFailure_of_find? {plans : List RecordingModule}
    (h : plans.find? (·.failStart) = none) : beforeFailure plans = plans := by
  induction plans with
  | nil => rfl
  | cons m rest ih =>
    rw [List.find?_cons] at h
    cases hm : m.failStart with
    | true => simp [hm] at h
    | false =>
      rw [hm] at h
      rw [beforeFailure, List.takeWhile_cons, hm]
      exact congrArg (m :: ·) (ih h)

/-- A coordinator after all modules have started. -/
def started (plans : List RecordingModule) (c : Coordinator σ π) : Coordinator σ π :=
  (requested plans c).advance .starting .running

/-- **A coordinator that was brought up** runs, or shuts down for the first reason that was given. -/
theorem started_eq (hstate : c.state = .starting) (harmed : c.trigger.reason = none)
    (plans : List RecordingModule) :
    (started plans c).stores = c.stores ∧
      (started plans c).trigger.reason = (request? plans).map .fatal ∧
      (started plans c).state = if plans.any (·.shutdownOnStart) then .fatalShutdown else .running := by
  have hany : plans.any (·.shutdownOnStart) = (request? plans).isSome := by
    rw [request?, Option.isSome_map, List.isSome_find?]
  rw [started, requested_eq harmed, hany]
  cases request? plans with
  | none => simp [Coordinator.advance, hstate, harmed]
  | some error =>
    obtain ⟨-, hreason, hfatal⟩ := Coordinator.shutdown_of_armed harmed error
    have hfatal := hfatal (.inl hstate)
    simp [Coordinator.advance, hfatal, hreason, Coordinator.stores_shutdown]

end RecordingModule

open RecordingModule

variable [MessageStores σ] [Policy π] {events : List Event}

theorem RecordingModule.start_beside (m : RecordingModule) (c : Coordinator σ π) (events : List Event) :
    (m.strategy (Seat.beside σ π)).start (c, events) =
      if m.failStart then (.error (refusal m.name), c, events ++ [.mark (startFailedMark m.name)])
      else (.ok (), requested [m] c, events ++ starts [m]) := by
  show m.start (Seat.beside σ π) (c, events) = _
  unfold RecordingModule.start
  split
  · rfl
  · cases hm : m.shutdownOnStart <;> simp [requested, hm, starts, Seat.beside, Coordinator.answer]

/-- **Starting recording modules**: those before the first that fails start, and that one leaves the
mark of its failure. -/
theorem Strategy.startAll_recording (plans : List RecordingModule) (c : Coordinator σ π)
    (events : List Event) :
    startAll (plans.map (RecordingModule.strategy (Seat.beside σ π))) (c, events) =
      match plans.find? (·.failStart) with
      | none => (.ok (), requested (beforeFailure plans) c, events ++ starts (beforeFailure plans))
      | some m => (.error (.strategyStart m.name (refusal m.name)), requested (beforeFailure plans) c,
          events ++ starts (beforeFailure plans) ++ [.mark (startFailedMark m.name)]) := by
  induction plans generalizing c events with
  | nil => simp [startAll, requested, beforeFailure, starts]
  | cons m rest ih =>
    rw [List.map_cons, startAll, start_beside, List.find?_cons, beforeFailure, List.takeWhile_cons]
    cases hm : m.failStart with
    | true =>
      simp only [if_true, Bool.not_true, Bool.false_eq_true, if_false, starts, List.map_nil,
        List.append_nil]
      rfl
    | false =>
      simp only [Bool.false_eq_true, if_false, Bool.not_false, if_true]
      rw [ih]
      have hevents (rest : List RecordingModule) :
          events ++ starts [m] ++ starts rest = events ++ starts (m :: rest) := by simp [starts]
      simp only [hevents]
      rfl

/-- **Bringing up a coordinator with recording modules.** -/
theorem Host.bringUp_recording (plans : List RecordingModule) (c : Coordinator σ π)
    (events : List Event) :
    (Host.beside σ π (List Event)).bringUp
        (plans.map (RecordingModule.strategy (Seat.beside σ π))) (c, events) =
      match plans.find? (·.failStart) with
      | none => (.ok (), started plans c, events ++ starts plans)
      | some m => (.error (.strategyStart m.name (refusal m.name)), requested (beforeFailure plans) c,
          events ++ starts (beforeFailure plans) ++ [.mark (startFailedMark m.name)]) := by
  rw [bringUp, Strategy.startAll_recording]
  cases hfind : plans.find? (·.failStart) with
  | none =>
    rw [beforeFailure_of_find? hfind]
    rfl
  | some m => rfl

theorem Strategy.stopAll_recording (plans : List RecordingModule) (grace : Nat)
    (c : Coordinator σ π) (events : List Event) :
    stopAll grace (plans.map (RecordingModule.strategy (Seat.beside σ π))) (c, events) =
      (c, events ++ stops plans) := by
  induction plans generalizing events with
  | nil => simp [stopAll, stops]
  | cons m rest ih =>
    simp only [stopAll, List.map_cons, List.foldl_cons] at ih ⊢
    refine (ih (events ++ [.mark (stopMark m.name)])).trans ?_
    simp [stops]

theorem Strategy.waitAll_recording (hopen : c.digest.isOk = true) (plans : List RecordingModule)
    (events : List Event) :
    waitAll (plans.map (RecordingModule.strategy (Seat.beside σ π))) (c, events) =
      (c, events ++ waits plans) := by
  induction plans generalizing events with
  | nil => simp [waitAll, waits]
  | cons m rest ih =>
    have hwait : (m.strategy (Seat.beside σ π)).wait (c, events) = (c, events ++ waits [m]) := by
      have hanswer : (c.answer .digest).1.isOk = true := hopen
      show m.wait (Seat.beside σ π) (c, events) = _
      simp only [RecordingModule.wait, Seat.beside, hanswer]
      rfl
    simp only [waitAll, List.map_cons, List.foldl_cons] at ih ⊢
    rw [hwait, ih]
    simp [waits]

/-- A coordinator that has been taken down. -/
def Coordinator.tornDown (c : Coordinator σ π) : Coordinator σ π :=
  (c.enterStopping.closeStores.release).setState .stopped

/-- **Taking down a coordinator with recording modules.** -/
theorem Host.tearDown_recording (hopen : c.digest.isOk = true) (plans : List RecordingModule)
    (grace : Nat) (events : List Event) :
    (Host.beside σ π (List Event)).tearDown grace
        (plans.map (RecordingModule.strategy (Seat.beside σ π))) (c, events) =
      (c.tornDown, events ++ stops plans ++ waits plans) := by
  have hopen' : c.enterStopping.digest.isOk = true := hopen
  have hstop := Strategy.stopAll_recording plans grace c.enterStopping events
  have hwait := Strategy.waitAll_recording hopen' plans (events ++ stops plans)
  simp only [tearDown, Host.beside, id] at hstop hwait ⊢
  rw [hstop, hwait]
  rfl

end

end Replica
