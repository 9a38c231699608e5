/-
The configuration of a coordinator.
-/
import Replica.Coordinator.Signal
import Replica.Queue

namespace Replica

/-- What a coordinator is told before it starts. -/
structure Config where
  /-- The directory the stores lie in. -/
  dataDirectory : String
  /-- The signals that shut it down, each once. -/
  signals : List ShutdownSignal := [.interrupt, .terminate]
  /-- Milliseconds between asking the modules to stop and their deadline. -/
  stopGrace : Nat := 5000
  stores : StoreOptions := {}
  /-- Whether a missing data directory is made. -/
  createIfMissing : Bool := true
  deriving DecidableEq, Repr

namespace Config

/-- The configuration used where nothing is said. -/
def standard : Config := { dataDirectory := "concordia-data" }

instance : Inhabited Config := ⟨standard⟩

/-- Adds a signal unless it is there. -/
def withSignal (config : Config) (signal : ShutdownSignal) : Config :=
  if signal ∈ config.signals then config
  else { config with signals := config.signals ++ [signal] }

/-- Leaves no signal. -/
def withoutSignals (config : Config) : Config := { config with signals := [] }

/-- Has these signals and no others. -/
def withSignals (config : Config) (signals : List ShutdownSignal) : Config :=
  signals.foldl withSignal config.withoutSignals

/-- One change of a configuration. -/
inductive Change
  | signals (signals : List ShutdownSignal)
  | signal (signal : ShutdownSignal)
  | noSignals
  | stopGrace (milliseconds : Nat)
  | syncOnWrite (value : Bool)
  | compactThreshold (records : Nat)
  | createIfMissing (value : Bool)
  deriving DecidableEq, Repr, Inhabited

/-- Makes one change. -/
def change (config : Config) : Change → Config
  | .signals signals => config.withSignals signals
  | .signal signal => config.withSignal signal
  | .noSignals => config.withoutSignals
  | .stopGrace milliseconds => { config with stopGrace := milliseconds }
  | .syncOnWrite value => { config with stores := { config.stores with syncOnWrite := value } }
  | .compactThreshold records =>
    { config with stores := { config.stores with compactThreshold := records } }
  | .createIfMissing value => { config with createIfMissing := value }

/-- The configuration before any change and after each. -/
def history (config : Config) : List Change → List Config
  | [] => [config]
  | change :: rest => config :: (config.change change).history rest

end Config

end Replica
