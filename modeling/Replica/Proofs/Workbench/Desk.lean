/-
One member of a bench.

What a member does is done by its coordinator and written into the journal; the rest of the
bench stays as it is (`Workbench.place`). Where no loop takes turns, a recording or scripted
module at its seat on the bench goes through what it goes through beside its coordinator
alone (`Module.Seated.mirrors`). So the bench takes a coordinator down as `Host.tearDown`
does beside a journal (`tearDown_place`), and starts one as `Coordinator.start` does
(`bringUp_is_start`): a start on the bench that fails loses nothing either
(`saves_of_bringUp_error`).
-/
import Replica.Proofs.Coordinator.Start
import Replica.Proofs.Table
import Replica.Proofs.Workbench.Quiet

namespace Replica.Workbench

open Strategy (Mirrors)

/-- The coordinator of a member and the journal of its bench. -/
abbrev Desk : Type := Coordinator FileStores RecordingPolicy × List Event

/-- A bench with a member on it, whose coordinator and journal are given. -/
def place (base : Workbench) (number : Nat) (member : Member) (d : Desk) : Workbench :=
  { base.withDisk d.1.stores.disk with
    members := base.members.insert number { member with coordinator := d.1 }
    events := d.2 }

section Place

variable {base : Workbench} {number : Nat} {member : Member} {d : Desk}

theorem get?_place (base : Workbench) (number : Nat) (member : Member) (d : Desk) :
    (place base number member d).members.get? number = some { member with coordinator := d.1 } :=
  Table.get?_insert_self ..

theorem onCoordinator_place {α : Type} (otherwise : α)
    (change : Coordinator FileStores RecordingPolicy → α × Coordinator FileStores RecordingPolicy) :
    onCoordinator number otherwise change (place base number member d) =
      ((change d.1).1, place base number member ((change d.1).2, d.2)) := by
  simp only [onCoordinator, onMember, get?_place]
  show ((change d.1).1, _) = _
  simp only [place, Table.insert_insert_self]
  rfl

/-- The seat of the member does what the seat beside its coordinator does. -/
theorem seat_mirrors (hturns : base.turns = []) (number : Nat) (member : Member) :
    (seat number).Mirrors (place base number member) (Seat.beside FileStores RecordingPolicy) where
  call request _ := onCoordinator_place default (·.answer request)
  record _ _ := rfl
  yield d := @settleNow_of_turns (place base number member d) hturns

theorem update_place
    (change : Coordinator FileStores RecordingPolicy → Coordinator FileStores RecordingPolicy)
    (d : Desk) : (host number).update change (place base number member d) =
      place base number member
        ((Host.beside FileStores RecordingPolicy (List Event)).update change d) := by
  simp only [host, onCoordinator_place]
  rfl

theorem silence_place (d : Desk) : (host number).silence (place base number member d) =
    place base number { member with signals := [] } d := by
  simp only [host, place, Table.modify_insert_self]

/-! ## Modules on the bench -/

/-- **A module that does all its work at its seat**, and the same module beside its coordinator. -/
inductive Module.Seated : Module → Strategy Desk → Prop
  | recording (plan : RecordingModule) :
      Seated (.recording plan) (plan.strategy (Seat.beside FileStores RecordingPolicy))
  | script (plan : ScriptModule) :
      Seated (.script plan) (plan.strategy (Seat.beside FileStores RecordingPolicy))

theorem Module.Seated.mirrors {m : Module} {m' : Strategy Desk} (h : m.Seated m')
    (hturns : base.turns = []) (number : Nat) (member : Member) :
    Mirrors (place base number member) (m.strategy number) m' := by
  cases h with
  | recording plan => exact plan.mirrors (seat_mirrors hturns number member)
  | script plan => exact plan.mirrors (seat_mirrors hturns number member)

variable {α : Type} {plans : List α} {f : α → Module} {g : α → Strategy Desk}

theorem discardModules_of_seated (h : ∀ a ∈ plans, (f a).Seated (g a)) (w : Workbench) :
    discardModules (plans.map f) w = w := by
  induction plans generalizing w with
  | nil => rfl
  | cons a rest ih =>
    obtain ⟨ha, hrest⟩ := List.forall_mem_cons.1 h
    simp only [discardModules, List.map_cons, List.foldl_cons] at ih ⊢
    cases hm : f a with
    | recording plan | script plan => exact ih hrest w
    | loopback name loop target =>
      rw [hm] at ha
      cases ha

/-! ## Letting a member go -/

theorem disown_place (hmodules : ∀ w, discardModules member.modules w = w) (d : Desk) :
    disown number (place base number member d) =
      releaseUnheld number (place (stopLoopsOf number base) number
        { member with isOwned := false, signals := [] } d) := by
  rw [disown, get?_place]
  dsimp only [Option.map_some, Option.getD_some]
  rw [hmodules]
  simp only [place, Table.modify_insert_self]
  rfl

theorem releaseUnheld_place (hunowned : member.isOwned = false) (d : Desk) :
    releaseUnheld number (place base number member d) =
      if base.nodes.rows.any (fun row => row.2.handle = some number)
          || base.loops.rows.any (fun row => row.2.run.any (·.coordinator = number)) then
        place base number member d
      else place base number member (d.1.release, d.2) := by
  have hheld : isHeld number (place base number member d) =
      (base.nodes.rows.any (fun row => row.2.handle = some number)
        || base.loops.rows.any (fun row => row.2.run.any (·.coordinator = number))) := by
    rw [isHeld, get?_place]
    simp only [Option.any_some, hunowned, Bool.false_or]
    rfl
  rw [releaseUnheld, hheld, onCoordinator_place]

/-! ## Bringing up and taking down -/

/-- The member of a launch. -/
def recruit (launch : Launch) (modules : List Module) (stores : FileStores) : Member where
  coordinator := { stores, policy := launch.policy }
  grace := launch.config.stopGrace
  signals := launch.config.signals
  modules := modules

/-- The bench on which the next member is the latest of a node. -/
def expect (node : String) (w : Workbench) : Workbench :=
  { w with nodes := w.nodes.modify node fun n => { n with latest := some w.members.rows.length } }

variable {w : Workbench} {launch : Launch} {node : String} {stores : FileStores} {disk : FileSystem}

theorem bringUp_eq {modules : List Module} {w : Workbench} {launch : Launch} {node : String}
    {stores : FileStores} (hopen : FileStores.open launch.config launch.fold w.disk =
      .ok stores stores.disk) :
    bringUp launch modules node w =
      match (host w.members.rows.length).bringUp (modules.map (Module.strategy w.members.rows.length))
        (place (expect node w) w.members.rows.length (recruit launch modules stores)
          ({ stores, policy := launch.policy }, w.events)) with
      | (.error e, w') => (.error e, disown w.members.rows.length w')
      | (.ok (), w') => (.ok w.members.rows.length, w') := by
  rw [bringUp, hopen]
  rfl

/-- **Bringing up a member** on a directory that opens. -/
theorem bringUp_of_open (hturns : w.turns = []) (hseated : ∀ a ∈ plans, (f a).Seated (g a))
    (hopen : FileStores.open launch.config launch.fold w.disk = .ok stores disk)
    (hdisk : stores.disk = disk) :
    bringUp launch (plans.map f) node w =
      match (Host.beside FileStores RecordingPolicy (List Event)).bringUp (plans.map g)
        ({ stores, policy := launch.policy }, w.events) with
      | (.error e, d) => (.error e, disown w.members.rows.length
          (place (expect node w) w.members.rows.length (recruit launch (plans.map f) stores) d))
      | (.ok (), d) => (.ok w.members.rows.length,
          place (expect node w) w.members.rows.length (recruit launch (plans.map f) stores) d) := by
  subst hdisk
  have hturns' : (expect node w).turns = [] := hturns
  have hup := Host.bringUp_mirrors update_place
    (fun a ha => (hseated a ha).mirrors hturns' w.members.rows.length
      (recruit launch (plans.map f) stores))
    ({ stores, policy := launch.policy }, w.events)
  rw [bringUp_eq hopen, List.map_map, Function.comp_def, hup]
  cases (Host.beside FileStores RecordingPolicy (List Event)).bringUp (plans.map g)
    ({ stores, policy := launch.policy }, w.events) with
  | mk result d => cases result <;> rfl

/-- **Taking down a member**, whose owner then lets it go. -/
theorem tearDown_place (hturns : base.turns = []) (hseated : ∀ a ∈ plans, (f a).Seated (g a))
    (hmodules : member.modules = plans.map f) (d : Desk) :
    tearDown number (place base number member d) = disown number
      (place base number { member with signals := [] }
        ((Host.beside FileStores RecordingPolicy (List Event)).tearDown member.grace (plans.map g)
          d)) := by
  have hdown := Host.tearDown_mirrors update_place (@silence_place base number member) update_place
    (fun a ha => (hseated a ha).mirrors hturns number { member with signals := [] }) member.grace d
  rw [tearDown, get?_place]
  dsimp only
  rw [hmodules, List.map_map, Function.comp_def, hdown, hmodules]

/-- **Nothing on the bench leads to the next member yet.** -/
structure NextIsNew (w : Workbench) : Prop where
  handles : ∀ row ∈ w.nodes.rows, row.2.handle ≠ some w.members.rows.length
  loops : ∀ row ∈ w.loops.rows, row.2.run.any (·.coordinator = w.members.rows.length) = false

/-- So nobody holds it once its owner has let it go. -/
theorem NextIsNew.not_held (h : NextIsNew w) (node : String) :
    ¬ ((stopLoopsOf w.members.rows.length (expect node w)).nodes.rows.any
        (fun row => row.2.handle = some w.members.rows.length)
      || (stopLoopsOf w.members.rows.length (expect node w)).loops.rows.any
        (fun row => row.2.run.any (·.coordinator = w.members.rows.length))) = true := by
  simp only [stopLoopsOf, expect, Table.modify, Bool.or_eq_true, List.any_map, List.any_eq_true,
    not_or, not_exists, not_and, Function.comp_def]
  refine ⟨fun row hrow => ?_, fun row hrow => ?_⟩
  · have hhandle := h.handles row hrow
    split <;> simpa using hhandle
  · have hrun := h.loops row hrow
    cases hthere : row.2.run with
    | none => simp
    | some run =>
      rw [hthere] at hrun
      have hother : run.coordinator ≠ w.members.rows.length := by simpa using hrun
      simp [hother]

/-- **The bench starts a coordinator as it starts beside a journal**: with the same result, journal and
files. -/
theorem bringUp_is_start (hturns : w.turns = []) (hseated : ∀ a ∈ plans, (f a).Seated (g a))
    (hnew : NextIsNew w) :
    match Coordinator.start launch.config launch.fold launch.policy (plans.map g)
      (w.events, w.disk) with
    | .ok c (events, disk) => ∃ number w', bringUp launch (plans.map f) node w = (.ok number, w') ∧
        w'.events = events ∧ w'.disk = disk ∧
        (w'.members.get? number).map (·.coordinator) = some c
    | .error e (events, disk) => ∃ w', bringUp launch (plans.map f) node w = (.error e, w') ∧
        w'.events = events ∧ w'.disk = disk := by
  rw [Coordinator.start]
  cases hopen : FileStores.open launch.config launch.fold w.disk with
  | error e disk =>
    refine ⟨w.withDisk disk, ?_, rfl, rfl⟩
    rw [bringUp, hopen]
    dsimp only
    rw [discardModules_of_seated hseated]
  | ok stores disk =>
    obtain ⟨hdisk, -⟩ := FileStores.ready_of_open hopen
    rw [bringUp_of_open hturns hseated hopen hdisk]
    dsimp only
    cases (Host.beside FileStores RecordingPolicy (List Event)).bringUp (plans.map g)
      ({ stores, policy := launch.policy }, w.events) with
    | mk result d =>
      cases result with
      | ok _ =>
        refine ⟨_, _, rfl, rfl, rfl, ?_⟩
        rw [get?_place]
        rfl
      | error e =>
        refine ⟨_, rfl, ?_⟩
        rw [disown_place (discardModules_of_seated hseated), releaseUnheld_place rfl,
          if_neg (hnew.not_held node)]
        exact ⟨rfl, rfl⟩

/-- **A start on the bench that fails** saves what the three store files said. -/
theorem saves_of_bringUp_error {here : Place} {queue history state : Bytes} {e : CoordinatorError}
    {w' : Workbench}
    (hfiles : DataDirectory.Files w.disk launch.config.dataDirectory here queue history state)
    (hturns : w.turns = []) (hseated : ∀ a ∈ plans, (f a).Seated (g a))
    (hdiscreet : ∀ a ∈ plans, (g a).IsDiscreet) (hnew : NextIsNew w)
    (hrun : bringUp launch (plans.map f) node w = (.error e, w')) :
    DataDirectory.Saves w.disk w'.disk launch.config.dataDirectory launch.fold ∧
      w'.disk.locked = w.disk.locked ∧
      (DataDirectory.IsFree w.disk launch.config.dataDirectory →
        DataDirectory.IsFree w'.disk launch.config.dataDirectory) := by
  have hsame := @bringUp_is_start _ plans f g w launch node hturns hseated hnew
  cases hstart : Coordinator.start launch.config launch.fold launch.policy (plans.map g)
    (w.events, w.disk) with
  | ok c rest =>
    rw [hstart] at hsame
    obtain ⟨number, w₁, hup, -⟩ := hsame
    rw [hrun] at hup
    cases hup
  | error e' rest =>
    rw [hstart] at hsame
    obtain ⟨w₁, hup, -, hdisk⟩ := hsame
    rw [hrun] at hup
    cases hup
    rw [hdisk]
    exact saves_of_start_error hfiles (List.forall_mem_map.2 hdiscreet) hstart

end Place

end Replica.Workbench
