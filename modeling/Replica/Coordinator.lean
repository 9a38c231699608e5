/-
The coordinator: stores, a policy, a shutdown trigger and a lifecycle state.

A call with a message goes through points, from the check of the lifecycle
state to its result, and `Handler.step` makes one move. Calls of one coordinator
never overlap between the check and the result; everything else may fall
between two moves. A failure on the way is offered to the trigger before it is
returned, so it is fatal unless something else was fatal before.
-/
import Replica.Coordinator.Trigger
import Replica.Coordinator.Policy
import Replica.Coordinator.Stores

namespace Replica

/-- A coordinator over stores `σ` and a policy `π`. -/
structure Coordinator (σ π : Type) where
  stores : σ
  policy : π
  trigger : Trigger := .armed
  state : Lifecycle := .starting

namespace Coordinator

variable {σ π : Type}

/-- Moves to `next` if the state is `source`. -/
def advance (source next : Lifecycle) (c : Coordinator σ π) : Coordinator σ π :=
  if c.state = source then { c with state := next } else c

/-- Moves to `next` whatever the state is. -/
def setState (next : Lifecycle) (c : Coordinator σ π) : Coordinator σ π := { c with state := next }

/-- Stops accepting messages. No call is between its check and its result. -/
def enterStopping (c : Coordinator σ π) : Coordinator σ π := c.setState .stopping

/-- Offers an error to the trigger; true if it is the first reason to shut down. -/
def offer (error : CoordinatorError) (c : Coordinator σ π) : Bool × Coordinator σ π :=
  let (accepted, trigger) := c.trigger.fire (.fatal error)
  (accepted, { c with trigger })

/-- Notes that a fatal error was accepted, unless teardown has begun. -/
def noteFatal (c : Coordinator σ π) : Coordinator σ π :=
  if c.state = .starting ∨ c.state = .running then { c with state := .fatalShutdown } else c

/-- Asks for a fatal shutdown; true if this is the request that is accepted. -/
def shutdown (error : CoordinatorError) (c : Coordinator σ π) : Bool × Coordinator σ π :=
  match c.offer error with
  | (true, c') => (true, c'.noteFatal)
  | (false, c') => (false, c')

/-- A signal of the operating system arrives. -/
def receive (signal : ShutdownSignal) (c : Coordinator σ π) : Coordinator σ π :=
  { c with trigger := (c.trigger.fire (.signal signal)).2 }

/-- Whether a shutdown has been triggered. -/
def isShuttingDown (c : Coordinator σ π) : Bool := c.trigger.isFired

end Coordinator

/-- What became of a message that was handled without failure. -/
inductive Outcome
  /-- Applied; the digest after it. -/
  | applied (digest : Digest)
  /-- The policy declined it. -/
  | skipped
  deriving DecidableEq, Repr, Inhabited

namespace Handler

/-- A call with a message. -/
structure Call where
  message : Message
  origin : Origin
  deriving DecidableEq, Repr, Inhabited

/-- Where a call stands. -/
inductive Point
  /-- Alone, about to check the lifecycle state. -/
  | check
  /-- About to ask the policy whether a remote message is wanted. -/
  | consult
  /-- About to let the policy apply the message. -/
  | process
  | fold
  | enqueue (digest : Digest)
  | push (digest : Digest)
  /-- Failed, about to offer the failure to the trigger. -/
  | escalate (error : CoordinatorError)
  /-- Failed and accepted, about to note it in the lifecycle state. -/
  | note (error : CoordinatorError)
  | finished (result : Except CoordinatorError Outcome)
  deriving Inhabited

/-- How many moves are left at most. -/
def Point.rank : Point → Nat
  | check => 8
  | consult => 7
  | process => 6
  | fold => 5
  | enqueue _ => 4
  | push _ => 3
  | escalate _ => 2
  | note _ => 1
  | finished _ => 0

/-- The result of a call that has finished. -/
def Point.result? : Point → Option (Except CoordinatorError Outcome)
  | finished result => some result
  | _ => none

variable {σ π : Type} [MessageStores σ] [Policy π]

/-- One move of a call. -/
def step (call : Call) (point : Point) (c : Coordinator σ π) : Point × Coordinator σ π :=
  match point with
  | .check =>
    if c.state.acceptsMessages then
      (match call.origin with | .local => .process | .remote => .consult, c)
    else (.finished (.error (.notRunning c.state)), c)
  | .consult =>
    match MessageStores.reader c.stores with
    | .error e => (.escalate (.store e), c)
    | .ok reader =>
      let (wanted, policy) := Policy.shouldProcess call.message reader c.policy
      (if wanted then .process else .finished (.ok .skipped), { c with policy })
  | .process =>
    let (result, policy) := Policy.process call.message call.origin c.policy
    (match result with
      | .ok () => .fold
      | .error text => .escalate (.policy call.message.id text), { c with policy })
  | .fold =>
    match MessageStores.fold call.message c.stores with
    | .ok digest stores =>
      (match call.origin with | .local => .enqueue digest | .remote => .push digest,
        { c with stores })
    | .error e stores => (.escalate (.fold call.message.id e), { c with stores })
  | .enqueue digest =>
    match MessageStores.enqueue call.message c.stores with
    | .ok _ stores => (.push digest, { c with stores })
    | .error e stores => (.escalate (.store e), { c with stores })
  | .push digest =>
    match MessageStores.push call.message c.stores with
    | .ok _ stores => (.finished (.ok (.applied digest)), { c with stores })
    | .error e stores => (.escalate (.store e), { c with stores })
  | .escalate error =>
    let (accepted, c') := c.offer error
    (if accepted then .note error else .finished (.error error), c')
  | .note error => (.finished (.error error), c.noteFatal)
  | .finished result => (.finished result, c)

/-- Every move of a call that has not finished leaves fewer. -/
theorem rank_step_lt (call : Call) (point : Point) (c : Coordinator σ π)
    (h : point.result? = none) : (step call point c).1.rank < point.rank := by
  cases point with
  | finished result => cases h
  | check =>
    unfold step
    dsimp only
    split
    · cases call.origin <;> simp [Point.rank]
    · simp [Point.rank]
  | consult =>
    unfold step
    dsimp only
    split
    · simp [Point.rank]
    · dsimp only
      split <;> simp [Point.rank]
  | process =>
    unfold step
    dsimp only
    split <;> simp [Point.rank]
  | fold =>
    unfold step
    dsimp only
    split
    · cases call.origin <;> simp [Point.rank]
    · simp [Point.rank]
  | enqueue digest =>
    unfold step
    dsimp only
    split <;> simp [Point.rank]
  | push digest =>
    unfold step
    dsimp only
    split <;> simp [Point.rank]
  | escalate error =>
    unfold step
    dsimp only
    split <;> simp [Point.rank]
  | note error => simp [step, Point.rank]

/-- Lets a call go on from a point to its result, with nothing in between. -/
def run (call : Call) (point : Point) (c : Coordinator σ π) :
    Except CoordinatorError Outcome × Coordinator σ π :=
  match _h : point.result? with
  | some result => (result, c)
  | none =>
    let next := step call point c
    run call next.1 next.2
termination_by point.rank
decreasing_by exact rank_step_lt call point c _h

/-- Handles a message from the check to the result. -/
def handle (call : Call) (c : Coordinator σ π) :
    Except CoordinatorError Outcome × Coordinator σ π :=
  run call .check c

end Handler

end Replica
