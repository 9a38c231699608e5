/-
The life of a member with recording modules.

Its modules start in order; if they all do, it runs or shuts down for the reason of the
first module that gave one. When it is stopped, or somebody listens until it shuts down,
every module is asked to stop before the first is waited for, and the stores are closed
after the last. If a module does not start, the member is let go: no step on its node
reaches it any more, so nothing is stopped or waited for.
-/
import Replica.Proofs.Strategy.Recording
import Replica.Proofs.Workbench.Desk

namespace Replica

/-! ## A coordinator that has been taken down -/

theorem FileStores.parts_release (stores : FileStores) :
    (MessageStores.release stores).queue = stores.queue ∧
      (MessageStores.release stores).history = stores.history ∧
      (MessageStores.release stores).state = stores.state := by
  show stores.release.queue = _ ∧ stores.release.history = _ ∧ stores.release.state = _
  unfold FileStores.release
  split <;> exact ⟨rfl, rfl, rfl⟩

theorem Coordinator.isClosed_tornDown {π : Type} (c : Coordinator FileStores π) :
    c.tornDown.stores.queue.isClosed = true ∧ c.tornDown.stores.history.isClosed = true ∧
      c.tornDown.stores.state.isClosed = true := by
  have htorn : c.tornDown.stores = MessageStores.release (MessageStores.closeState
    (MessageStores.closeHistory (MessageStores.closeQueue c.stores))) := rfl
  obtain ⟨hqueue, hhistory, hstate⟩ := FileStores.parts_release (MessageStores.closeState
    (MessageStores.closeHistory (MessageStores.closeQueue c.stores)))
  rw [htorn, hqueue, hhistory, hstate, FileStores.closeHistory_eq, FileStores.closeQueue_eq]
  exact ⟨Queue.isClosed_close .., History.isClosed_close .., rfl⟩

theorem Coordinator.digest_isOk {π : Type} {c : Coordinator FileStores π}
    (h : c.stores.state.isClosed = false) : c.digest.isOk = true := by
  have hdigest : c.stores.state.digest = .ok c.stores.state.snapshot.digest := by
    simp [StateStore.digest, StateStore.current, h]
  show (storeResult c.stores.state.digest).isOk = true
  rw [hdigest]
  rfl

namespace Workbench

open RecordingModule

/-! ## Members in service -/

section Service

variable {base : Workbench} {number : Nat} {member : Member} {name : String}
  {plans : List RecordingModule} {c : Coordinator FileStores RecordingPolicy} {events : List Event}
  {d : Desk} {error : CoordinatorError} {meanwhile : Meanwhile}

/-- A member that was let go. -/
def Member.retired (member : Member) : Member := { member with isOwned := false, signals := [] }

/-- **A member in service** with recording modules: the handle of a node leads to it, its owner is there,
and no loop takes turns. -/
structure InService (base : Workbench) (name : String) (number : Nat) (member : Member)
    (plans : List RecordingModule) : Prop where
  turns : base.turns = []
  handle : (base.nodes.get? name).bind (·.handle) = some number
  isOwned : member.isOwned = true
  modules : member.modules = plans.map .recording

/-- A recording module beside its coordinator. -/
abbrev atDesk (m : RecordingModule) : Strategy Desk :=
  m.strategy (Seat.beside FileStores RecordingPolicy)

theorem seated_recording (plans : List RecordingModule) :
    ∀ m ∈ plans, (Module.recording m).Seated (atDesk m) := fun m _ => .recording m

/-- A member to which the handle of a node leads is let go and not released. -/
theorem InService.disown_eq (h : InService base name number member plans) (d : Desk) :
    disown number (place base number member d) =
      place (stopLoopsOf number base) number member.retired d := by
  obtain ⟨node, hget, hhandle⟩ := Option.bind_eq_some_iff.1 h.handle
  have hheld : base.nodes.rows.any (fun row => row.2.handle = some number) = true :=
    List.any_eq_true.2 ⟨_, Table.mem_of_get? hget, by simpa using hhandle⟩
  have hdiscard (w : Workbench) : discardModules member.modules w = w := by
    rw [h.modules]
    exact discardModules_of_seated (seated_recording plans) w
  rw [disown_place hdiscard, releaseUnheld_place rfl]
  exact if_pos (by rw [Bool.or_eq_true]; exact .inl hheld)

/-- **Taking down a member with recording modules.** -/
theorem InService.tearDown_eq (h : InService base name number member plans)
    (hopen : c.stores.state.isClosed = false) (events : List Event) :
    tearDown number (place base number member (c, events)) =
      place (stopLoopsOf number base) number member.retired
        (c.tornDown, events ++ stops plans ++ waits plans) := by
  have hsilent : InService base name number { member with signals := [] } plans :=
    ⟨h.turns, h.handle, h.isOwned, h.modules⟩
  rw [tearDown_place h.turns (seated_recording plans) h.modules,
    Host.tearDown_recording (Coordinator.digest_isOk hopen), hsilent.disown_eq]
  rfl

/-! ## Listening -/

theorem reasonOf_place : reasonOf number (place base number member d) = d.1.trigger.reason := by
  rw [reasonOf, get?_place]
  rfl

theorem takeDownIfShut_idle (hturns : base.turns = [])
    (hidle : d.1.trigger.reason = none ∨ member.isOwned = false) :
    takeDownIfShut number (place base number member d) = place base number member d := by
  have hsettle : settleNow (place base number member d) = place base number member d :=
    settleNow_of_turns hturns
  simp only [takeDownIfShut, hsettle, reasonOf_place, get?_place, Option.any_some]
  rcases hidle with hreason | howned
  · simp [hreason]
  · simp [howned]

/-- **A member that shuts down is taken down.** -/
theorem InService.takeDownIfShut_eq (h : InService base name number member plans)
    (hopen : c.stores.state.isClosed = false) {reason : ShutdownReason}
    (hreason : c.trigger.reason = some reason) (events : List Event) :
    takeDownIfShut number (place base number member (c, events)) =
      place (stopLoopsOf number base) number member.retired
        (c.tornDown, events ++ stops plans ++ waits plans) := by
  have hsettle : settleNow (place base number member (c, events)) =
      place base number member (c, events) := settleNow_of_turns h.turns
  simp only [takeDownIfShut, hsettle, reasonOf_place, get?_place, Option.any_some, hreason,
    h.isOwned, Option.isSome_some, Bool.and_self, if_true]
  rw [h.tearDown_eq hopen]
  exact settleNow_of_turns h.turns

theorem attend_idle (hturns : base.turns = [])
    (hidle : d.1.trigger.reason = none ∨ member.isOwned = false) (milliseconds : Nat) :
    ∃ base', attend number milliseconds (place base number member d) = place base' number member d ∧
      base'.turns = [] ∧ base'.nodes = base.nodes := by
  induction milliseconds generalizing base with
  | zero => exact ⟨base, rfl, hturns, rfl⟩
  | succ n ih =>
    rw [attend, takeDownIfShut_idle hturns hidle]
    exact @ih (tick base) hturns

theorem happen_of_fired (hsignal : meanwhile.signal = none) {reason : ShutdownReason}
    (hreason : d.1.trigger.reason = some reason) :
    happen number meanwhile (place base number member d) = place base number member d := by
  simp only [happen, hsignal]
  cases meanwhile.shutdown with
  | none => rfl
  | some error =>
    show (onCoordinator number default (·.answer (.shutdown error)) _).2 = _
    rw [onCoordinator_place]
    simp only [Coordinator.answer, Coordinator.shutdown_of_fired hreason]

/-- **Listening to a member until it shuts down** for a reason it has or is given meanwhile. -/
theorem InService.hear_eq (h : InService base name number member plans)
    (hopen : c.stores.state.isClosed = false) (hsignal : meanwhile.signal = none)
    {reason : Option CoordinatorError} (hreason : c.trigger.reason = reason.map .fatal)
    (herror : reason.or meanwhile.shutdown = some error) (events : List Event) :
    ∃ base' c', hear number meanwhile (place base number member (c, events)) =
        place base' number member.retired
          (Coordinator.tornDown c', events ++ stops plans ++ waits plans) ∧
      base'.nodes = base.nodes ∧ c'.trigger.reason = some (.fatal error) := by
  rw [hear, listenInterval]
  cases reason with
  | some first =>
    -- the member is taken down at once, and what happens later does not reach it
    cases herror
    have htorn : c.tornDown.trigger.reason = some (.fatal error) := hreason
    rw [attend, h.takeDownIfShut_eq hopen hreason]
    obtain ⟨base', hattend, hturns, hnodes⟩ := @attend_idle (tick (stopLoopsOf number base)) number
      member.retired (c.tornDown, events ++ stops plans ++ waits plans) h.turns (.inr rfl) 19
    refine ⟨base', c, ?_, hnodes, hreason⟩
    refine (congrArg (takeDownIfShut number ∘ happen number meanwhile) hattend).trans ?_
    rw [Function.comp_apply, happen_of_fired hsignal htorn, takeDownIfShut_idle hturns (.inr rfl)]
  | none =>
    -- nothing happens until the member is asked to shut down
    have hshutdown : meanwhile.shutdown = some error := herror
    obtain ⟨-, hfired, -⟩ := Coordinator.shutdown_of_armed hreason error
    obtain ⟨base', hattend, hturns, hnodes⟩ :=
      @attend_idle base number member (c, events) h.turns (.inl hreason) 20
    have hstill : InService base' name number member plans :=
      ⟨hturns, by rw [hnodes, h.handle], h.isOwned, h.modules⟩
    have hhappen : happen number meanwhile (place base' number member (c, events)) =
        place base' number member ((c.shutdown error).2, events) := by
      simp only [happen, hsignal, hshutdown]
      exact congrArg Prod.snd (onCoordinator_place default (·.answer (.shutdown error)))
    refine ⟨stopLoopsOf number base', (c.shutdown error).2, ?_, hnodes, hfired⟩
    rw [hattend, hhappen]
    exact hstill.takeDownIfShut_eq (by rw [c.stores_shutdown]; exact hopen) hfired events

/-- The handle of a node leads to a coordinator that is stopped and whose stores are closed. -/
def IsStopped (w : Workbench) (name : String) : Prop :=
  ∃ number member, (w.nodes.get? name).bind (·.handle) = some number ∧
    w.members.get? number = some member ∧ member.coordinator.state = .stopped ∧
    member.coordinator.stores.queue.isClosed = true ∧
    member.coordinator.stores.history.isClosed = true ∧
    member.coordinator.stores.state.isClosed = true

theorem isStopped_place (hnode : (base.nodes.get? name).bind (·.handle) = some number)
    (c : Coordinator FileStores RecordingPolicy) (events : List Event) :
    IsStopped (place base number member (c.tornDown, events)) name :=
  ⟨number, _, hnode, get?_place .., rfl, c.isClosed_tornDown⟩

/-- **Stopping a member with recording modules.** -/
theorem InService.step_stop (h : InService base name number member plans)
    (hopen : c.stores.state.isClosed = false) (events : List Event) :
    ∃ w, step (.node name .stop) (place base number member (c, events)) = (.lifecycle .stopped, w) ∧
      w.events = events ++ stops plans ++ waits plans ∧ IsStopped w name := by
  have hhandle : ((place base number member (c, events)).nodes.get? name).bind (·.handle) =
      some number := h.handle
  refine ⟨_, ?_, rfl, @isStopped_place (stopLoopsOf number base) number member.retired name h.handle c
    (events ++ stops plans ++ waits plans)⟩
  simp only [step, nodeStep, hhandle, get?_place, memberStep, h.isOwned, if_true]
  rw [h.tearDown_eq hopen, stateOf, get?_place]
  rfl

/-- **Listening to a member with recording modules** that shuts down. -/
theorem InService.step_listen (h : InService base name number member plans)
    (hopen : c.stores.state.isClosed = false) (hsignal : meanwhile.signal = none)
    {reason : Option CoordinatorError} (hreason : c.trigger.reason = reason.map .fatal)
    (herror : reason.or meanwhile.shutdown = some error) (events : List Event) :
    ∃ w, step (.node name (.listen meanwhile)) (place base number member (c, events)) =
        (.failed (.coordinator error), w) ∧
      w.events = events ++ stops plans ++ waits plans ∧ IsStopped w name := by
  have hhandle : ((place base number member (c, events)).nodes.get? name).bind (·.handle) =
      some number := h.handle
  have hends : ends number meanwhile (place base number member (c, events)) = true := by
    rw [ends, reasonOf_place, hreason, Option.isSome_map, ← Option.isSome_or, herror]
    rfl
  obtain ⟨base', c', hhear, hnodes, hfired⟩ := h.hear_eq hopen hsignal hreason herror events
  refine ⟨_, ?_, rfl, @isStopped_place base' number member.retired name (by rw [hnodes, h.handle])
    c' (events ++ stops plans ++ waits plans)⟩
  have htorn : c'.tornDown.trigger.reason = some (.fatal error) := hfired
  simp only [step, nodeStep, hhandle, get?_place, memberStep, h.isOwned, if_true, listen, hends, hhear,
    reasonOf_place, htorn]
  rfl

/-! ## Starting -/

variable {w : Workbench} {launch : Launch} {stores : FileStores} {disk : FileSystem}

theorem mapM_resolve (w : Workbench) (plans : List RecordingModule) :
    (plans.map ModulePlan.recording).mapM (ModulePlan.resolve w) =
      some (plans.map Module.recording) := by
  induction plans with
  | nil => rfl
  | cons m rest ih =>
    rw [List.map_cons, List.mapM_cons, ih]
    rfl

theorem get?_expect (hnode : (w.nodes.get? name).bind (·.handle) = none) :
    (expect name (noteLaunch name w)).nodes.get? name = some ⟨none, some w.members.rows.length⟩ := by
  have hhandle : ((w.nodes.get? name).getD {}).handle = none := by
    cases hget : w.nodes.get? name with
    | none => rfl
    | some node =>
      rw [hget] at hnode
      exact hnode
  have hnoted : (noteLaunch name w).nodes =
      w.nodes.insert name { (w.nodes.get? name).getD {} with latest := none } := rfl
  rw [expect, Table.get?_modify, if_pos rfl, hnoted, Table.get?_insert_self]
  simp only [Option.map_some, hhandle]
  rfl

theorem install_place (hnode : (base.nodes.get? name).bind (·.handle) = none) (d : Desk) :
    install name number (place base number member d) =
      place { base with nodes := base.nodes.modify name fun n => { n with handle := some number } }
        number member d := by
  have hold : ((place base number member d).nodes.get? name).bind (·.handle) = none := hnode
  rw [install, hold]
  rfl

/-- **Starting a member with recording modules**, all of which start. -/
theorem step_start (hturns : w.turns = []) (hnode : (w.nodes.get? name).bind (·.handle) = none)
    (hlaunch : launch.modules = plans.map .recording)
    (hopen : FileStores.open launch.config launch.fold w.disk = .ok stores disk)
    (hstarts : plans.find? (·.failStart) = none) :
    ∃ base number member, step (.node name (.start launch)) w =
        (.started .uninitialized (if plans.any (·.shutdownOnStart) then .fatalShutdown else .running),
          place base number member
            (started plans { stores, policy := launch.policy }, w.events ++ starts plans)) ∧
      InService base name number member plans := by
  obtain ⟨hdisk, -⟩ := FileStores.ready_of_open hopen
  have hup := @bringUp_of_open _ _ Module.recording atDesk (noteLaunch name w) launch name stores disk
    hturns (seated_recording plans) hopen hdisk
  obtain ⟨-, -, hstate⟩ := @started_eq _ _ { stores, policy := launch.policy } rfl rfl plans
  have hnone : ((expect name (noteLaunch name w)).nodes.get? name).bind (·.handle) = none := by
    rw [get?_expect hnode]
    rfl
  rw [Host.bringUp_recording, hstarts] at hup
  dsimp only at hup
  refine ⟨{ expect name (noteLaunch name w) with
    nodes := (expect name (noteLaunch name w)).nodes.modify name fun n =>
      { n with handle := some w.members.rows.length } }, w.members.rows.length,
    recruit launch (plans.map .recording) stores, ?_, ⟨hturns, ?_, rfl, rfl⟩⟩
  · simp only [step, nodeStep, start, hlaunch, mapM_resolve, hup]
    rw [stateOf, get?_place, install_place hnone]
    simp only [Option.map_some, Option.getD_some, hstate]
    rfl
  · rw [Table.get?_modify, if_pos rfl, get?_expect hnode]
    rfl

/-- **A start that a recording module refuses.** Nothing on the bench leads to the member any more. -/
theorem step_start_refused (hturns : w.turns = []) (hnode : (w.nodes.get? name).bind (·.handle) = none)
    (hlaunch : launch.modules = plans.map .recording)
    (hopen : FileStores.open launch.config launch.fold w.disk = .ok stores disk)
    {m : RecordingModule} (hrefuses : plans.find? (·.failStart) = some m) :
    ∃ w', step (.node name (.start launch)) w =
        (.failed (.coordinator (.strategyStart m.name (refusal m.name))), w') ∧
      w'.events = w.events ++ starts (beforeFailure plans) ++ [.mark (startFailedMark m.name)] ∧
      w'.turns = [] ∧ (w'.nodes.get? name).bind (·.handle) = none := by
  obtain ⟨hdisk, -⟩ := FileStores.ready_of_open hopen
  have hup := @bringUp_of_open _ _ Module.recording atDesk (noteLaunch name w) launch name stores disk
    hturns (seated_recording plans) hopen hdisk
  rw [Host.bringUp_recording, hrefuses] at hup
  dsimp only at hup
  have hgone := silent_disown w.members.rows.length (place (expect name (noteLaunch name w))
    w.members.rows.length (recruit launch (plans.map .recording) stores)
    (requested (beforeFailure plans) { stores, policy := launch.policy },
      w.events ++ starts (beforeFailure plans) ++ [.mark (startFailedMark m.name)]))
  refine ⟨_, ?_, hgone.events, hgone.turns.trans hturns, ?_⟩
  · simp only [step, nodeStep, start, hlaunch, mapM_resolve, hup]
    rfl
  · rw [hgone.nodes]
    show ((expect name (noteLaunch name w)).nodes.get? name).bind (·.handle) = none
    rw [get?_expect hnode]
    rfl

/-- **The life of a coordinator with recording modules**, on a node without one, of a bench on which no
loop was started, and on a directory that opens. If every module starts, so does the coordinator: it
runs, or shuts down if a module asked for it. When it is stopped, or listened to with a reason to shut
down and without a signal, the journal gains all requests to stop after all starts and all waits after
these, with the stores open; the coordinator is then stopped and its stores are closed, and who
listened gets the first reason. If a module does not start, the start fails with the first of them, the
journal gains the starts before it and its failure, and later steps add nothing. -/
theorem recording_lifecycle (hturns : w.turns = [])
    (hnode : (w.nodes.get? name).bind (·.handle) = none)
    (hlaunch : launch.modules = plans.map .recording)
    (hopen : FileStores.open launch.config launch.fold w.disk = .ok stores disk) :
    match plans.find? (·.failStart) with
    | none => ∃ w₁,
        step (.node name (.start launch)) w = (.started .uninitialized
          (if plans.any (·.shutdownOnStart) then .fatalShutdown else .running), w₁) ∧
        w₁.events = w.events ++ starts plans ∧
        (∃ w₂, step (.node name .stop) w₁ = (.lifecycle .stopped, w₂) ∧
          w₂.events = w.events ++ starts plans ++ stops plans ++ waits plans ∧ IsStopped w₂ name) ∧
        ∀ meanwhile error, meanwhile.signal = none →
          (request? plans).or meanwhile.shutdown = some error →
          ∃ w₂, step (.node name (.listen meanwhile)) w₁ = (.failed (.coordinator error), w₂) ∧
            w₂.events = w.events ++ starts plans ++ stops plans ++ waits plans ∧ IsStopped w₂ name
    | some m => ∃ w₁,
        step (.node name (.start launch)) w =
          (.failed (.coordinator (.strategyStart m.name (refusal m.name))), w₁) ∧
        w₁.events = w.events ++ starts (beforeFailure plans) ++ [.mark (startFailedMark m.name)] ∧
        ∀ steps : List Step, (∀ s ∈ steps, s.IsQuiet name) →
          (after steps w₁).events = w₁.events := by
  cases hfind : plans.find? (·.failStart) with
  | none =>
    obtain ⟨base, number, member, hstart, hservice⟩ := step_start hturns hnode hlaunch hopen hfind
    obtain ⟨hstores, hreason, -⟩ := @started_eq _ _ { stores, policy := launch.policy } rfl rfl plans
    have hstate : (started plans { stores, policy := launch.policy }).stores.state.isClosed = false := by
      rw [hstores]
      exact (FileStores.ready_of_open hopen).2
    exact ⟨_, hstart, rfl, hservice.step_stop hstate _, fun meanwhile error hsignal herror =>
      hservice.step_listen hstate hsignal hreason herror _⟩
  | some m =>
    obtain ⟨w₁, hstart, hevents, hturns', hnone⟩ :=
      step_start_refused hturns hnode hlaunch hopen hfind
    exact ⟨w₁, hstart, hevents, fun steps hquiet => (silent_after hquiet hturns' hnone).events⟩

end Service

/-! ## Two starts on an empty bench -/

/-- A launch of recording modules on a new directory. -/
def recordingLaunch (plans : List RecordingModule) : Launch where
  config := { dataDirectory := "/bench/data" }
  policy := {}
  fold := .sum
  modules := plans.map .recording

/-- Of two modules the second asks for a shutdown; of three others the second does not start. -/
theorem recording_lifecycle_shutDownAndRefused :
    let shutting : List RecordingModule := [{ name := "a" }, { name := "b", shutdownOnStart := true }]
    let refusing : List RecordingModule :=
      [{ name := "a" }, { name := "b", failStart := true }, { name := "c" }]
    (∃ w₁ w₂, step (.node "n" (.start (recordingLaunch shutting))) (empty "/bench" "/") =
          (.started .uninitialized .fatalShutdown, w₁) ∧
        step (.node "n" (.listen {})) w₁ =
          (.failed (.coordinator (.other "b failed while starting")), w₂) ∧
        w₂.events = [.mark "start:a", .mark "start:b", .mark "stop:a", .mark "stop:b",
          .mark "wait:a:stores-open", .mark "wait:b:stores-open"] ∧
        IsStopped w₂ "n") ∧
      ∃ w₁, step (.node "n" (.start (recordingLaunch refusing))) (empty "/bench" "/") =
          (.failed (.coordinator (.strategyStart "b" "b refused to start")), w₁) ∧
        w₁.events = [.mark "start:a", .mark "start-failed:b"] := by
  intro shutting refusing
  have hopen : ∃ stores disk, FileStores.open { dataDirectory := "/bench/data" } .sum
      (empty "/bench" "/").disk = .ok stores disk := exists_ok_of_isOk (by decide +kernel)
  obtain ⟨stores, disk, hopen⟩ := hopen
  obtain ⟨w₁, hstart, -, -, hlisten⟩ := @recording_lifecycle "n" shutting (empty "/bench" "/")
    (recordingLaunch shutting) stores disk rfl rfl rfl hopen
  obtain ⟨w₂, hlistened, hevents, hstopped⟩ := hlisten {} _ rfl rfl
  obtain ⟨w₃, hrefused, hevents', -⟩ := @recording_lifecycle "n" refusing (empty "/bench" "/")
    (recordingLaunch refusing) stores disk rfl rfl rfl hopen
  exact ⟨⟨w₁, w₂, hstart, hlistened, hevents, hstopped⟩, w₃, hrefused, hevents'⟩

end Workbench

end Replica
