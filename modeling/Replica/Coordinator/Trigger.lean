/-
The shutdown trigger: a latch that is set once and never again.

Whoever fires it first has its reason accepted; later reasons are dropped. A
waiter takes a ticket before it looks at the latch, and firing announces the
reason to all tickets handed out before, so a reason accepted between the look
and the wait is not lost.
-/
import Replica.Coordinator.Error

namespace Replica

/-- Why a coordinator shuts down. -/
inductive ShutdownReason
  | signal (signal : ShutdownSignal)
  | fatal (error : CoordinatorError)
  deriving DecidableEq, Repr, Inhabited

/-- What somebody who listens to a coordinator gets when it has been taken down for a reason. -/
def ShutdownReason.result : ShutdownReason → Except CoordinatorError Unit
  | signal _ => .ok ()
  | fatal error => .error error

/-- A latch for the first reason to shut down. -/
structure Trigger where
  /-- The accepted reason. -/
  reason : Option ShutdownReason := none
  /-- How often waiters have been called. -/
  announced : Nat := 0
  deriving DecidableEq, Repr, Inhabited

namespace Trigger

/-- Nothing accepted yet. -/
def armed : Trigger := {}

/-- Whether a reason has been accepted. -/
def isFired (trigger : Trigger) : Bool := trigger.reason.isSome

/-- Accepts a reason if it is the first. -/
def accept (reason : ShutdownReason) (trigger : Trigger) : Bool × Trigger :=
  match trigger.reason with
  | some _ => (false, trigger)
  | none => (true, { trigger with reason := some reason })

/-- Calls everybody who waits. -/
def announce (trigger : Trigger) : Trigger :=
  { trigger with announced := trigger.announced + 1 }

/-- Whether waiters were called since this ticket was handed out. -/
def hasCalled (trigger : Trigger) (ticket : Nat) : Bool := ticket < trigger.announced

/-- Fires the trigger; false if it had been fired before. -/
def fire (reason : ShutdownReason) (trigger : Trigger) : Bool × Trigger :=
  match trigger.accept reason with
  | (true, trigger') => (true, trigger'.announce)
  | (false, trigger') => (false, trigger')

end Trigger

/-- Somebody who waits for a trigger. -/
inductive Waiter
  /-- Has no ticket yet. -/
  | outside
  /-- Has a ticket and has not looked at the latch. -/
  | ticketed (ticket : Nat)
  /-- Has looked, found nothing and is about to sleep. -/
  | looked (ticket : Nat)
  | parked (ticket : Nat)
  | returned (reason : ShutdownReason)
  deriving DecidableEq, Repr, Inhabited

namespace Waiter

/-- The next step of a waiter. One that was called since it took its ticket does not sleep, or wakes
up, and begins again. -/
def step (trigger : Trigger) : Waiter → Waiter
  | outside => ticketed trigger.announced
  | ticketed ticket =>
    match trigger.reason with
    | some reason => returned reason
    | none => looked ticket
  | looked ticket => if trigger.hasCalled ticket then outside else parked ticket
  | parked ticket => if trigger.hasCalled ticket then outside else parked ticket
  | returned reason => returned reason

/-- Lets a waiter go on until it sleeps or returns. -/
def settle (trigger : Trigger) (waiter : Waiter) : Waiter :=
  step trigger (step trigger (step trigger waiter))

/-- The reason a waiter has returned. -/
def reason? : Waiter → Option ShutdownReason
  | returned reason => some reason
  | _ => none

end Waiter

namespace Trigger

/-- The reason somebody who waits now gets at once. -/
def wait (trigger : Trigger) : Option ShutdownReason :=
  (Waiter.settle trigger .outside).reason?

/-- A waiter goes to sleep, then the trigger is fired: what the waiter gets, and whether the reason
was accepted. -/
def waitAndFire (reason : ShutdownReason) (trigger : Trigger) :
    (Option ShutdownReason × Bool) × Trigger :=
  let waiter := Waiter.settle trigger .outside
  let (accepted, trigger') := trigger.fire reason
  (((Waiter.settle trigger' waiter).reason?, accepted), trigger')

end Trigger

end Replica
