/-
Strategy modules and the order in which a coordinator brings them up and takes
them down.

Modules start in registration order; the first that fails ends the start and
those before it are left alone. Teardown stops accepting messages, asks every
module to stop, waits for every module, and only then closes the stores, gives
the lock back and is stopped.
-/
import Replica.Coordinator.Handle

namespace Replica

/-- A strategy module, as what it does to a world. -/
structure Strategy (W : Type) where
  name : String
  /-- Starts the module; a text says why it did not start. -/
  start : W → Except String Unit × W
  /-- Asks the module to stop within so many milliseconds. -/
  stop : (grace : Nat) → W → W
  /-- Waits until the module has stopped. -/
  wait : W → W

/-- A world in which a coordinator runs. -/
structure Host (W σ π : Type) where
  /-- Changes the coordinator. -/
  update : (Coordinator σ π → Coordinator σ π) → W → W
  /-- No longer listens to signals for the coordinator. -/
  silence : W → W

namespace Strategy

variable {W σ π : Type}

/-- Starts modules in order until one fails. -/
def startAll : List (Strategy W) → W → Except CoordinatorError Unit × W
  | [], w => (.ok (), w)
  | m :: rest, w =>
    match m.start w with
    | (.error text, w') => (.error (.strategyStart m.name text), w')
    | (.ok (), w') => startAll rest w'

/-- Asks every module to stop, in order. -/
def stopAll (grace : Nat) (modules : List (Strategy W)) (w : W) : W :=
  modules.foldl (fun w m => m.stop grace w) w

/-- Waits for every module, in order. -/
def waitAll (modules : List (Strategy W)) (w : W) : W := modules.foldl (fun w m => m.wait w) w

end Strategy

namespace Host

variable {W σ π : Type}

/-- Starts the modules of a coordinator whose stores are open. A shutdown asked for on the way is
kept. -/
def bringUp (host : Host W σ π) (modules : List (Strategy W)) (w : W) :
    Except CoordinatorError Unit × W :=
  match Strategy.startAll modules w with
  | (.error e, w') => (.error e, w')
  | (.ok (), w') => (.ok (), host.update (Coordinator.advance .starting .running) w')

variable [MessageStores σ]

/-- Takes a coordinator and its modules down. -/
def tearDown (host : Host W σ π) (grace : Nat) (modules : List (Strategy W)) (w : W) : W :=
  let w := host.update Coordinator.enterStopping w
  let w := host.silence w
  let w := Strategy.stopAll grace modules w
  let w := Strategy.waitAll modules w
  let w := host.update Coordinator.closeStores w
  let w := host.update Coordinator.release w
  host.update (Coordinator.setState .stopped) w

end Host

end Replica
