/-
Coordinators on a workbench: calls through their handles, and who still holds
them.

A coordinator works on the file system of the bench, which is put under its
stores for each call and taken back afterwards. It is held by its owner, by the
handle of a node and by every loop that still runs; when nobody holds it any
more its lock is given back.
-/
import Replica.Workbench.Bench

namespace Replica.Workbench

/-- Puts a file system under the stores of a coordinator. -/
def mountUnder (disk : FileSystem) (c : Coordinator FileStores RecordingPolicy) :
    Coordinator FileStores RecordingPolicy :=
  { c with stores := { c.stores with disk } }

/-- Changes a member on the file system of the bench. A number without a member answers with what
the change is given instead. -/
def onMember {α : Type} (number : Nat) (otherwise : α) (change : Member → α × Member) :
    StateM Workbench α := fun w =>
  match w.members.get? number with
  | none => (otherwise, w)
  | some member =>
    let (a, member) := change { member with coordinator := mountUnder w.disk member.coordinator }
    (a, { w.withDisk member.coordinator.stores.disk with
      members := w.members.insert number member })

/-- Changes the coordinator of a member. -/
def onCoordinator {α : Type} (number : Nat) (otherwise : α)
    (change : Coordinator FileStores RecordingPolicy →
      α × Coordinator FileStores RecordingPolicy) : StateM Workbench α :=
  onMember number otherwise fun member =>
    let (a, coordinator) := change member.coordinator
    (a, { member with coordinator })

/-- A call through the handle of a member. -/
def call (number : Nat) (c : HandleCall) : StateM Workbench HandleAnswer :=
  onCoordinator number default (·.answer c)

/-- Whether anybody holds a member. -/
def isHeld (number : Nat) (w : Workbench) : Bool :=
  (w.members.get? number).any (·.isOwned)
    || w.nodes.rows.any (fun row => row.2.handle = some number)
    || w.loops.rows.any (fun row => row.2.run.any (·.coordinator = number))

/-- Gives back the lock of a member that nobody holds. -/
def releaseUnheld (number : Nat) (w : Workbench) : Workbench :=
  if isHeld number w then w else (onCoordinator number () (fun c => ((), c.release)) w).2

/-- Asks the loops of a member to stop. -/
def stopLoopsOf (number : Nat) (w : Workbench) : Workbench :=
  { w with
    loops := ⟨w.loops.rows.map fun (n, loop) =>
      (n, { loop with
        run := loop.run.map fun run =>
          if run.coordinator = number then { run with stopping := true } else run })⟩ }

/-- A loop that was never started will not be: nobody receives from its channel. -/
def discardLoop (number : Nat) (w : Workbench) : Workbench :=
  { w with
    loops := w.loops.modify number fun l =>
      if l.started then l else { l.finish with started := true } }

/-- Modules that are let go before they were started. -/
def discardModules (modules : List Module) (w : Workbench) : Workbench :=
  modules.foldl (fun w m =>
    match m with
    | .loopback _ loop _ => discardLoop loop w
    | _ => w) w

/-- The owner of a member lets it go, and with it its modules. -/
def disown (number : Nat) (w : Workbench) : Workbench :=
  let modules := ((w.members.get? number).map (·.modules)).getD []
  let w := { w with
    members := w.members.modify number fun member => { member with isOwned := false, signals := [] } }
  releaseUnheld number (discardModules modules (stopLoopsOf number w))

/-- Adds a coordinator; its number is returned. -/
def addMember (member : Member) (w : Workbench) : Nat × Workbench :=
  let number := w.members.rows.length
  (number, { w with members := w.members.insert number member })

end Replica.Workbench
