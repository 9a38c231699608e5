/-
Modules that make a fixed list of calls in each phase of their lifecycle.
-/
import Replica.Journal
import Replica.Strategy

namespace Replica

/-- A module that follows a script. -/
structure ScriptModule where
  name : String
  onStart : List HandleCall := []
  onStop : List HandleCall := []
  onWait : List HandleCall := []
  /-- Why the start fails after its calls, if it does. -/
  failStart : Option String := none
  deriving DecidableEq, Repr, Inhabited

namespace ScriptModule

variable {W : Type}

/-- Makes calls in order and records each answer. -/
def play (seat : Seat W) (name : String) (phase : Phase) (calls : List HandleCall) (w : W) : W :=
  calls.foldl (fun w call =>
    let (answer, w) := seat.call call w
    seat.record (.called name phase answer) w) w

/-- The module as a strategy. -/
def strategy (seat : Seat W) (m : ScriptModule) : Strategy W where
  name := m.name
  start w :=
    (match m.failStart with | some text => .error text | none => .ok (),
      play seat m.name .onStart m.onStart w)
  stop grace w :=
    play seat m.name .onStop m.onStop (seat.record (.stopping m.name grace) w)
  wait w := seat.record (.waited m.name) (play seat m.name .onWait m.onWait w)

end ScriptModule

end Replica
