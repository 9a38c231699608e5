/-
Nodes of a workbench: starting coordinators, calling them, listening to them
and taking them down.
-/
import Replica.Workbench.Time

namespace Replica.Workbench

/-! ## Modules -/

/-- What the modules of a member get to work with. -/
def seat (number : Nat) : Seat Workbench where
  call := call number
  record event w := { w with events := w.events ++ [event] }
  yield := settleNow

/-- Starts the run of a loop; a loop starts once. -/
def startLoop (number loop : Nat) (target : Option Nat) (w : Workbench) :
    Except String Unit × Workbench :=
  if (w.loops.get? loop).any (·.started) then (.error Loop.restartError, w)
  else
    (.ok (), modifyLoop loop (fun l =>
      { l with
        started := true
        run := some { coordinator := number, target, nextTick := w.clock } })
      { w with turns := w.turns ++ [loop] })

/-- Asks the run of a loop to stop. -/
def stopLoop (loop : Nat) (w : Workbench) : Workbench :=
  modifyLoop loop (fun l => { l with run := l.run.map fun t => { t with stopping := true } }) w

/-- A module of a member as a strategy. -/
def Module.strategy (number : Nat) : Module → Strategy Workbench
  | .recording plan => plan.strategy (seat number)
  | .script plan => plan.strategy (seat number)
  | .loopback name loop target =>
    { name
      start := startLoop number loop target
      stop := fun _ => stopLoop loop
      wait := settleNow }

/-- The bench as the host of a member. -/
def host (number : Nat) : Host Workbench FileStores RecordingPolicy where
  update f w := (onCoordinator number () (fun c => ((), f c)) w).2
  silence w :=
    { w with members := w.members.modify number fun member => { member with signals := [] } }

/-- The module of a plan; none if it names a loop that was never created. -/
def ModulePlan.resolve (w : Workbench) : ModulePlan → Option Module
  | .recording plan => some (.recording plan)
  | .script plan => some (.script plan)
  | .loopback name target =>
    (loopNumber? name w).map fun loop => .loopback name loop (target.bind (loopNumber? · w))

/-! ## Starting and stopping -/

/-- Opens the stores of a launch and starts its modules; the number of the new member. -/
def bringUp (launch : Launch) (modules : List Module) (node : String) (w : Workbench) :
    Except CoordinatorError Nat × Workbench :=
  match FileStores.open launch.config launch.fold w.disk with
  | .error e disk => (.error (.store e), discardModules modules (w.withDisk disk))
  | .ok stores disk =>
    let (number, w) := addMember {
      coordinator := { stores, policy := launch.policy }
      grace := launch.config.stopGrace
      signals := launch.config.signals
      modules } (w.withDisk disk)
    let w := { w with nodes := w.nodes.modify node fun n => { n with latest := some number } }
    match (host number).bringUp (modules.map (Module.strategy number)) w with
    | (.error e, w) => (.error e, disown number w)
    | (.ok (), w) => (.ok number, w)

/-- Takes a member down. -/
def tearDown (number : Nat) (w : Workbench) : Workbench :=
  match w.members.get? number with
  | none => w
  | some member =>
    disown number
      ((host number).tearDown member.grace (member.modules.map (Module.strategy number)) w)

/-- The state of a member. -/
def stateOf (number : Nat) (w : Workbench) : Lifecycle :=
  ((w.members.get? number).map (·.coordinator.state)).getD .uninitialized

/-- Notes that a node got a new policy, which no coordinator has yet. -/
def noteLaunch (name : String) (w : Workbench) : Workbench :=
  let node := (w.nodes.get? name).getD {}
  { w with nodes := w.nodes.insert name { node with latest := none } }

/-- Makes a member the coordinator of a node; the one the node had is let go. -/
def install (name : String) (number : Nat) (w : Workbench) : Workbench :=
  let old := (w.nodes.get? name).bind (·.handle)
  let w := { w with nodes := w.nodes.modify name fun n => { n with handle := some number } }
  match old with
  | some old => disown old w
  | none => w

/-- Starts a coordinator on a node. -/
def start (name : String) (launch : Launch) : Action := fun w =>
  match launch.modules.mapM (ModulePlan.resolve w) with
  | none => (.missing .loop, w)
  | some modules =>
    match bringUp launch modules name (noteLaunch name w) with
    | (.error e, w) => (.failed (.coordinator e), w)
    | (.ok number, w) =>
      (.started .uninitialized (stateOf number w), install name number w)

/-! ## Listening -/

/-- Why a member shuts down, if it does. -/
def reasonOf (number : Nat) (w : Workbench) : Option ShutdownReason :=
  (w.members.get? number).bind (·.coordinator.trigger.reason)

/-- Whether a member listens to a signal. -/
def listensTo (number : Nat) (signal : ShutdownSignal) (w : Workbench) : Bool :=
  (w.members.get? number).any (signal ∈ ·.signals)

/-- Milliseconds until a signal that arrived has been noticed. -/
def signalInterval : Nat := 10

/-- A signal arrives at every member that listens to it. -/
def arrive (signal : ShutdownSignal) (w : Workbench) : Workbench :=
  { w with
    members := ⟨w.members.rows.map fun (n, member) =>
      (n, if signal ∈ member.signals then
          { member with coordinator := member.coordinator.receive signal }
        else member)⟩ }

/-- What happens while somebody listens to a member. -/
def happen (number : Nat) (meanwhile : Meanwhile) (w : Workbench) : Workbench :=
  let w := match meanwhile.shutdown with
    | some error => (call number (.shutdown error) w).2
    | none => w
  match meanwhile.signal with
  | some signal => arrive signal w
  | none => w

/-- Whether listening comes to an end. -/
def ends (number : Nat) (meanwhile : Meanwhile) (w : Workbench) : Bool :=
  (reasonOf number w).isSome || meanwhile.shutdown.isSome
    || meanwhile.signal.any (listensTo number · w)

/-- The reply after a member was taken down for a reason. -/
def reasonReply (reason : ShutdownReason) : Reply :=
  match reason.result with
  | .ok _ => .done
  | .error error => .failed (.coordinator error)

/-- Lets the loops go on; takes a member down if it shuts down and still runs. -/
def takeDownIfShut (number : Nat) (w : Workbench) : Workbench :=
  let w := settleNow w
  if (reasonOf number w).isSome && (w.members.get? number).any (·.isOwned) then
    settleNow (tearDown number w)
  else w

/-- Listens to a member for so many milliseconds. -/
def attend (number : Nat) : (milliseconds : Nat) → Workbench → Workbench
  | 0, w => w
  | milliseconds + 1, w => attend number milliseconds (tick (takeDownIfShut number w))

/-- Milliseconds for which somebody listens before something happens. -/
def listenInterval : Nat := 20

/-- Listens to a member until it shuts down. -/
def hear (number : Nat) (meanwhile : Meanwhile) (w : Workbench) : Workbench :=
  takeDownIfShut number (happen number meanwhile (attend number listenInterval w))

/-- Listens to a member if that comes to an end. -/
def listen (number : Nat) (meanwhile : Meanwhile) : Action := fun w =>
  if !ends number meanwhile w then (.wouldBlock, w)
  else
    let w := hear number meanwhile w
    (((reasonOf number w).map reasonReply).getD .wouldBlock, w)

/-- Starts a coordinator for a node and listens to it at once; one that does not shut down is let
go. The node keeps its handle. -/
def startAndListen (name : String) (launch : Launch) (meanwhile : Meanwhile) : Action := fun w =>
  match launch.modules.mapM (ModulePlan.resolve w) with
  | none => (.missing .loop, w)
  | some modules =>
    match bringUp launch modules name (noteLaunch name w) with
    | (.error e, w) => (.failed (.coordinator e), w)
    | (.ok number, w) =>
      let w := hear number meanwhile w
      match reasonOf number w with
      | some reason => (reasonReply reason, w)
      | none => (.wouldBlock, disown number w)

/-! ## Steps -/

/-- Makes calls in order; how many succeeded. -/
def callAll (number : Nat) : List HandleCall → StateM Workbench Nat
  | [] => pure 0
  | c :: rest => do
    let answer ← call number c
    let succeeded ← callAll number rest
    return (if answer.isOk then 1 else 0) + succeeded

/-- A step on a member through the handle of its node. -/
def memberStep (number : Nat) (member : Member) : NodeStep → Action
  | .call c => fun w =>
    let (answer, w) := call number c w
    (.answer answer, w)
  | .concurrent calls => fun w =>
    let (count, w) := callAll number calls w
    match call number .status w with
    | (.status status, w) => (.accepted count status, w)
    | (answer, w) => (.answer answer, w)
  | .modules => fun w =>
    (.modules (if member.isOwned then
        some (member.modules.map fun m => (m.name, .started))
      else none), w)
  | .stop => fun w =>
    let w := if member.isOwned then tearDown number w else w
    (.lifecycle (stateOf number w), w)
  | .listen meanwhile => fun w =>
    if member.isOwned then listen number meanwhile w else (.missing .coordinator, w)
  | .signal signal => fun w =>
    let w := sleep signalInterval (arrive signal w)
    (.truth ((w.members.get? number).any (·.coordinator.isShuttingDown)), w)
  | _ => fun w => (.missing .coordinator, w)

/-- A step on a node. -/
def nodeStep (name : String) (step : NodeStep) : Action := fun w =>
  match step with
  | .start launch => start name launch w
  | .startAndListen launch meanwhile => startAndListen name launch meanwhile w
  | .policy =>
    match w.nodes.get? name with
    | none => (.missing .coordinator, w)
    | some node =>
      (.policy (((node.latest.bind w.members.get?).map (·.coordinator.policy)).getD {}), w)
  | step =>
    match (w.nodes.get? name).bind (·.handle) with
    | none => (.missing .coordinator, w)
    | some number =>
      match w.members.get? number with
      | none => (.missing .coordinator, w)
      | some member => memberStep number member step w

end Replica.Workbench
