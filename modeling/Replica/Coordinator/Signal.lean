/-
The signals of the operating system a coordinator shuts down on.
-/
namespace Replica

/-- A signal that asks for a clean shutdown. -/
inductive ShutdownSignal
  | interrupt
  | terminate
  | hangup
  | quit
  deriving DecidableEq, Repr, Inhabited

namespace ShutdownSignal

/-- Every signal. -/
def all : List ShutdownSignal := [interrupt, terminate, hangup, quit]

/-- The name of the signal. -/
def name : ShutdownSignal → String
  | interrupt => "SIGINT"
  | terminate => "SIGTERM"
  | hangup => "SIGHUP"
  | quit => "SIGQUIT"

/-- The signal with this name. -/
def ofName? (s : String) : Option ShutdownSignal := all.find? (·.name = s)

end ShutdownSignal

end Replica
