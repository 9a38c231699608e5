/-
The lifecycle of a coordinator and of its strategy modules.

A coordinator goes from starting to running, from either to a fatal shutdown
once an error has been accepted, and from any of these to stopping and stopped.
Messages are accepted in one state only.
-/
namespace Replica

/-- The state of a coordinator. -/
inductive Lifecycle
  /-- Built but not started. -/
  | uninitialized
  /-- Opening stores and starting modules. -/
  | starting
  /-- Accepting messages. -/
  | running
  /-- A fatal error was raised. -/
  | fatalShutdown
  /-- Stopping modules and closing stores. -/
  | stopping
  | stopped
  deriving DecidableEq, Repr, Inhabited

namespace Lifecycle

/-- Every state, in the order a coordinator goes through them. -/
def all : List Lifecycle := [uninitialized, starting, running, fatalShutdown, stopping, stopped]

/-- Whether messages are accepted. -/
def acceptsMessages (state : Lifecycle) : Bool := state = running

/-- Whether teardown has begun. -/
def isTerminal (state : Lifecycle) : Bool := state = stopping || state = stopped

/-- The name of the state. -/
def name : Lifecycle → String
  | uninitialized => "uninitialized"
  | starting => "starting"
  | running => "running"
  | fatalShutdown => "fatal-shutdown"
  | stopping => "stopping"
  | stopped => "stopped"

/-- The state with this name. -/
def ofName? (s : String) : Option Lifecycle := all.find? (·.name = s)

end Lifecycle

/-- The state of a strategy module as its coordinator sees it. -/
inductive ModuleState
  | created
  | started
  | stopping
  | stopped
  deriving DecidableEq, Repr, Inhabited

namespace ModuleState

/-- Every state, in order. -/
def all : List ModuleState := [created, started, stopping, stopped]

/-- The name of the state. -/
def name : ModuleState → String
  | created => "created"
  | started => "started"
  | stopping => "stopping"
  | stopped => "stopped"

end ModuleState

end Replica
