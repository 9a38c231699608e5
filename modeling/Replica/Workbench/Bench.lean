/-
A workbench: one directory tree and what is open on it.

There is one place for each kind of store. What is opened next takes the place
of what was there, which is let go first; if opening fails the place is empty.
Coordinators are members, numbered in the order they were started and found by
the name of their node; modules share one journal and one clock, and the clock
moves only when somebody waits.
-/
import Replica.Coordinator.FileStores
import Replica.Workbench.Device
import Replica.Workbench.Reply
import Replica.Workbench.Step

namespace Replica

namespace Workbench

/-- A module of a member; loops are known by their numbers. -/
inductive Module
  | recording (plan : RecordingModule)
  | script (plan : ScriptModule)
  | loopback (name : String) (loop : Nat) (target : Option Nat)
  deriving DecidableEq, Repr, Inhabited

/-- The name of a module. -/
def Module.name : Module → String
  | recording plan => plan.name
  | script plan => plan.name
  | loopback name _ _ => name

/-- A coordinator on the bench. -/
structure Member where
  coordinator : Coordinator FileStores RecordingPolicy
  /-- Milliseconds its modules get to stop. -/
  grace : Nat
  /-- The signals it listens to. -/
  signals : List ShutdownSignal
  modules : List Module
  /-- Whether somebody can still listen to it or take it down. -/
  isOwned : Bool := true

/-- A node: the member its handle leads to, and the member its latest policy went to. -/
structure Node where
  handle : Option Nat := none
  latest : Option Nat := none
  deriving DecidableEq, Repr, Inhabited

end Workbench

/-- A directory tree and what is open on it. -/
structure Workbench where
  world : Workbench.World
  /-- The directory that steps change and whose tree is shown. -/
  top : Place
  /-- The byte store in memory opened last. -/
  memory : Option Workbench.Device := none
  /-- The file opened last as a byte store. -/
  file : Option Workbench.Device := none
  log : Option (Log Workbench.Device) := none
  queue : Option (Queue Workbench.Device) := none
  history : Option (History Workbench.Device) := none
  state : Option StateStore := none
  locks : Table String DataDirectory := .empty
  nodes : Table String Workbench.Node := .empty
  members : Table Nat Workbench.Member := .empty
  loops : Table Nat Loop := .empty
  /-- The numbers of the loops that were started, in the order in which they take turns. -/
  turns : List Nat := []
  /-- What modules have recorded, oldest first. -/
  events : List Event := []
  /-- Milliseconds that have passed. -/
  clock : Nat := 0

namespace Workbench

/-- The names of the directories a path goes through from the root. -/
def namesOf (path : String) : List String :=
  (Path.components path.toList).map fun c => String.ofList c.name

/-- The file system of an empty bench: the empty directory `top` and somewhere else the working
directory. -/
def emptyDisk (top working : String) : FileSystem :=
  let made (path : String) (disk : FileSystem) := match FileSystem.makeDirectories path disk with
    | .ok _ disk | .error _ disk => disk
  { made working (made top {}) with working := namesOf working }

/-- A bench over the empty directory `top`, which like the working directory is given by its path
from the root. -/
def empty (top working : String) : Workbench where
  world := { disk := emptyDisk top working }
  top := namesOf top

instance : Inhabited Workbench := ⟨empty "/" "/"⟩

/-- The file system of the bench. -/
def disk (w : Workbench) : FileSystem := w.world.disk

/-- Puts another file system under the bench. -/
def withDisk (disk : FileSystem) (w : Workbench) : Workbench :=
  { w with world := { w.world with disk } }

/-- An action on the bench that ends with a reply. -/
abbrev Action := StateM Workbench Reply

/-- Runs an action on the file system. -/
def onDisk {ε α : Type} (wrap : ε → Failure) (reply : α → Reply)
    (act : EStateM ε FileSystem α) : Action := fun w =>
  match act w.disk with
  | .ok a disk => (reply a, w.withDisk disk)
  | .error e disk => (.failed (wrap e), w.withDisk disk)

/-- A place on the bench for one open thing. -/
structure Slot (τ : Type) where
  get : Workbench → Option τ
  put : Option τ → Workbench → Workbench
  /-- What is missing when the place is empty. -/
  missing : Missing

namespace Slot

variable {τ ε α : Type}

/-- Acts on the thing in a place and the world. -/
def act (slot : Slot τ) (wrap : ε → Failure) (reply : α → Reply)
    (action : EStateM ε (τ × World) α) : Action := fun w =>
  match slot.get w with
  | none => (.missing slot.missing, w)
  | some thing =>
    match action (thing, w.world) with
    | .ok a (thing, world) => (reply a, slot.put (some thing) { w with world })
    | .error e (thing, world) => (.failed (wrap e), slot.put (some thing) { w with world })

/-- Looks at the thing in a place. -/
def look (slot : Slot τ) (reply : τ → World → Reply) : Action := fun w =>
  match slot.get w with
  | none => (.missing slot.missing, w)
  | some thing => (reply thing w.world, w)

/-- Lets go what is in a place and opens another thing there. -/
def fill (slot : Slot τ) (wrap : ε → Failure) (reply : τ → α → Reply)
    (opening : EStateM ε World (τ × α)) : Action := fun w =>
  let w := slot.put none w
  match opening w.world with
  | .ok (thing, a) world => (reply thing a, slot.put (some thing) { w with world })
  | .error e world => (.failed (wrap e), { w with world })

end Slot

/-- The place of the byte store in memory. -/
def memorySlot : Slot Device := ⟨memory, fun memory w => { w with memory }, .byteStore⟩

/-- The place of the open file. -/
def fileSlot : Slot Device := ⟨file, fun file w => { w with file }, .byteStore⟩

/-- The place of the log. -/
def logSlot : Slot (Log Device) := ⟨log, fun log w => { w with log }, .log⟩

/-- The place of the queue. -/
def queueSlot : Slot (Queue Device) := ⟨queue, fun queue w => { w with queue }, .queue⟩

/-- The place of the history. -/
def historySlot : Slot (History Device) :=
  ⟨history, fun history w => { w with history }, .history⟩

/-- The place of the state store. -/
def stateSlot : Slot StateStore := ⟨state, fun state w => { w with state }, .state⟩

end Workbench

end Replica
