/-
Loops and time on a workbench.

A loop that was started handles what is in its channel and, if it delivers to
another, drains the queue of its coordinator at every tick. Loops take turns
whenever something waits, until no turn changes anything; time passes one
millisecond after the other, with turns in between. Who waits for a time goes
on as soon as it comes: the loops take their turns at that time only when
something waits again.
-/
import Replica.Workbench.Member

namespace Replica.Workbench

/-- The loop created last under a name. -/
def loopNumber? (name : String) (w : Workbench) : Option Nat :=
  (w.loops.rows.reverse.find? (·.2.name = name)).map (·.1)

/-- Adds a loop. One of the same name that was never started is gone. -/
def createLoop (name : String) (w : Workbench) : Workbench :=
  let w := match loopNumber? name w with
    | some old => discardLoop old w
    | none => w
  { w with loops := w.loops.insert w.loops.rows.length { name } }

/-- Changes a loop. -/
def modifyLoop (number : Nat) (change : Loop → Loop) (w : Workbench) : Workbench :=
  { w with loops := w.loops.modify number change }

/-- Handles everything in the channel of a loop. -/
def receive (number : Nat) (loop : Loop) (run : LoopRun) (w : Workbench) : Bool × Workbench :=
  if loop.inbox.messages = [] then (false, w)
  else
    let (results, w) :=
      onCoordinator run.coordinator [] (Loopback.receiveAll loop.inbox.messages) w
    (true, modifyLoop number (fun l =>
      { l with inbox := { l.inbox with messages := [] }, outcomes := l.outcomes ++ results }) w)

/-- The first tick after `now`. -/
def nextTickAfter (now tick : Nat) : Nat :=
  if now < tick then tick
  else now + Loop.pollInterval - (now - tick) % Loop.pollInterval

/-- Drains the queue of a loop's coordinator into the channel it delivers to, if a tick is due. -/
def deliver (number : Nat) (run : LoopRun) (w : Workbench) : Bool × Workbench :=
  match run.target with
  | none => (false, w)
  | some target =>
    if w.clock < run.nextTick then (false, w)
    else
      let inbox := ((w.loops.get? target).map (·.inbox)).getD (Channel.close {})
      let (inbox, w) := onCoordinator run.coordinator inbox (fun c =>
        let (c, inbox) := Loopback.drain c inbox
        (inbox, c)) w
      let w := modifyLoop target (fun l => { l with inbox }) w
      (true, modifyLoop number (fun l =>
        { l with
          run := l.run.map fun t => { t with nextTick := nextTickAfter w.clock t.nextTick } }) w)

/-- One turn of a loop; whether it changed anything. -/
def turn (number : Nat) (w : Workbench) : Bool × Workbench :=
  match w.loops.get? number with
  | none => (false, w)
  | some loop =>
    match loop.run with
    | none => (false, w)
    | some run =>
      if run.stopping then
        (true, releaseUnheld run.coordinator (modifyLoop number Loop.finish w))
      else
        let (received, w) := receive number loop run w
        let (delivered, w) := deliver number run w
        (received || delivered, w)

/-- One turn of every loop, in the order they were started; whether any changed anything. -/
def round (w : Workbench) : Bool × Workbench :=
  w.turns.foldl (fun (moved, w) number =>
    let (m, w) := turn number w
    (moved || m, w)) (false, w)

/-- Up to `fuel` rounds, until one changes nothing. -/
def rounds : (fuel : Nat) → Workbench → Workbench
  | 0, w => w
  | fuel + 1, w =>
    match round w with
    | (true, w) => rounds fuel w
    | (false, w) => w

/-- Lets every loop go on until nothing is left to do at this time. A loop delivers at most once at
a time, so the rounds after the first find fewer and fewer messages. -/
def settleNow (w : Workbench) : Workbench := rounds (w.turns.length + 3) w

/-- Moves the clock on by one millisecond. -/
def tick (w : Workbench) : Workbench := { w with clock := w.clock + 1 }

/-- Waits so many milliseconds. -/
def sleep : (milliseconds : Nat) → Workbench → Workbench
  | 0, w => w
  | milliseconds + 1, w => sleep milliseconds (tick (settleNow w))

/-- Milliseconds between two looks at a condition. -/
def lookInterval : Nat := 5

/-- Looks at a condition up to `looks` times more, waiting in between; whether it came to hold. -/
def waitFor (holds : Workbench → Bool) : (looks : Nat) → Workbench → Bool × Workbench
  | 0, w => (holds w, w)
  | looks + 1, w => if holds w then (true, w) else waitFor holds looks (sleep lookInterval w)

/-- How many messages the loop with this number has handled. -/
def outcomesOf (number : Nat) (w : Workbench) :
    List (MessageId × Except CoordinatorError Outcome) :=
  ((w.loops.get? number).map (·.outcomes)).getD []

/-- A step on loops. -/
def loopStep : LoopStep → Action
  | .create name => fun w => (.done, createLoop name w)
  | .send name message => fun w =>
    match loopNumber? name w with
    | none => (.missing .loop, w)
    | some number =>
      match w.loops.get? number with
      | none => (.missing .loop, w)
      | some loop =>
        let (sent, inbox) := loop.inbox.send message
        (.truth sent, modifyLoop number (fun l => { l with inbox }) w)
  | .outcomes name count => fun w =>
    match loopNumber? name w with
    | none => (.missing .loop, w)
    | some number =>
      let (reached, w) := waitFor (fun w => count ≤ (outcomesOf number w).length) 400 w
      (.outcomes reached (outcomesOf number w), w)
  | .settle => fun w => (.done, sleep 1000 w)

end Replica.Workbench
