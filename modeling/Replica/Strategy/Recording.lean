/-
Modules that record their own lifecycle in a journal.
-/
import Replica.Journal
import Replica.Strategy

namespace Replica

/-- A module that marks each step of its lifecycle. -/
structure RecordingModule where
  name : String
  /-- The start fails. -/
  failStart : Bool := false
  /-- The start succeeds and asks for a fatal shutdown. -/
  shutdownOnStart : Bool := false
  deriving DecidableEq, Repr, Inhabited

namespace RecordingModule

/-- The mark of a start. -/
def startMark (name : String) : String := s!"start:{name}"

/-- The mark of a start that failed. -/
def startFailedMark (name : String) : String := s!"start-failed:{name}"

/-- The mark of a request to stop. -/
def stopMark (name : String) : String := s!"stop:{name}"

/-- The mark of the wait, with what the stores looked like then. -/
def waitMark (name : String) (storesOpen : Bool) : String :=
  if storesOpen then s!"wait:{name}:stores-open" else s!"wait:{name}:stores-closed"

/-- Why the module does not start. -/
def refusal (name : String) : String := s!"{name} refused to start"

/-- The error of a module that asks for a shutdown while it starts. -/
def startError (name : String) : CoordinatorError := .other s!"{name} failed while starting"

variable {W : Type}

/-- Starts the module. -/
def start (seat : Seat W) (m : RecordingModule) (w : W) : Except String Unit × W :=
  if m.failStart then (.error (refusal m.name), seat.record (.mark (startFailedMark m.name)) w)
  else
    let w := seat.record (.mark (startMark m.name)) w
    if m.shutdownOnStart then (.ok (), (seat.call (.shutdown (startError m.name)) w).2)
    else (.ok (), w)

/-- Waits for the module, which looks whether the stores can still be read. -/
def wait (seat : Seat W) (m : RecordingModule) (w : W) : W :=
  let (answer, w) := seat.call .digest (seat.yield w)
  seat.record (.mark (waitMark m.name answer.isOk)) w

/-- The module as a strategy. -/
def strategy (seat : Seat W) (m : RecordingModule) : Strategy W where
  name := m.name
  start := m.start seat
  stop _ := seat.record (.mark (stopMark m.name))
  wait := m.wait seat

end RecordingModule

end Replica
