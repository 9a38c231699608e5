/-
Journals: ordered logs of what strategy modules went through.
-/
import Replica.Coordinator.Handle

namespace Replica

/-- When a module makes a call. -/
inductive Phase
  | onStart
  | onStop
  | onWait
  deriving DecidableEq, Repr, Inhabited

/-- The name of the phase. -/
def Phase.name : Phase → String
  | onStart => "on_start"
  | onStop => "on_stop"
  | onWait => "on_wait"

/-- An entry of a journal. -/
inductive Event
  | mark (text : String)
  /-- A module made a call through its handle. -/
  | called (name : String) (phase : Phase) (answer : HandleAnswer)
  /-- A module was asked to stop within so many milliseconds. -/
  | stopping (name : String) (grace : Nat)
  /-- A module has been waited for. -/
  | waited (name : String)
  deriving Inhabited

namespace Journal

/-- The position of the first mark with this text. -/
def position (marks : List String) (text : String) : Option Nat := marks.findIdx? (· = text)

/-- Whether there is a mark with this text. -/
def contains (marks : List String) (text : String) : Bool := (position marks text).isSome

end Journal

/-- What a strategy module gets to work with. -/
structure Seat (W : Type) where
  /-- Makes a call through the handle of the coordinator. -/
  call : HandleCall → W → HandleAnswer × W
  /-- Adds to the journal. -/
  record : Event → W → W
  /-- Lets everything else go on for a moment. -/
  yield : W → W

end Replica
