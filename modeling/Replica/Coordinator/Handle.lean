/-
What a coordinator answers through its handle, as one kind of call each.
-/
import Replica.Coordinator

namespace Replica

/-- What a handle tells about its coordinator. -/
structure Status where
  state : Lifecycle
  pending : Nat
  history : Nat
  shuttingDown : Bool
  digest : Except CoordinatorError Digest
  deriving Inhabited

/-- A call through a handle. -/
inductive HandleCall
  /-- Applies a message created here and queues it for delivery. -/
  | new (message : Message)
  /-- Applies a message received from a peer, if the policy wants it. -/
  | remote (message : Message)
  /-- Takes the oldest message awaiting delivery. -/
  | dequeue
  /-- Looks at the oldest message awaiting delivery. -/
  | peek
  | digest
  /-- Asks for a fatal shutdown. -/
  | shutdown (error : CoordinatorError)
  | status
  deriving DecidableEq, Repr, Inhabited

/-- The answer to a call. -/
inductive HandleAnswer
  | digest (result : Except CoordinatorError Digest)
  | outcome (result : Except CoordinatorError Outcome)
  | message (result : Except CoordinatorError (Option Message))
  | accepted (value : Bool)
  | status (value : Status)
  deriving Inhabited

/-- Whether a call ended without an error. -/
def HandleAnswer.isOk : HandleAnswer → Bool
  | digest result => result.isOk
  | outcome result => result.isOk
  | message result => result.isOk
  | accepted _ => true
  | status _ => true

namespace Coordinator

variable {σ π : Type} [MessageStores σ] [Policy π]

/-- A failure of a store, as a handle reports it. -/
def storeResult {α : Type} : Except StoreError α → Except CoordinatorError α
  | .ok a => .ok a
  | .error e => .error (.store e)

/-- Applies a message created here. -/
def handleNew (message : Message) (c : Coordinator σ π) :
    Except CoordinatorError Outcome × Coordinator σ π :=
  Handler.handle ⟨message, .local⟩ c

/-- Applies a message received from a peer. -/
def handleRemote (message : Message) (c : Coordinator σ π) :
    Except CoordinatorError Outcome × Coordinator σ π :=
  Handler.handle ⟨message, .remote⟩ c

/-- Takes the oldest message awaiting delivery. -/
def dequeue (c : Coordinator σ π) :
    Except CoordinatorError (Option Message) × Coordinator σ π :=
  match MessageStores.dequeue c.stores with
  | .ok message stores => (.ok message, { c with stores })
  | .error e stores => (.error (.store e), { c with stores })

/-- The current digest. -/
def digest (c : Coordinator σ π) : Except CoordinatorError Digest :=
  storeResult (MessageStores.digest c.stores)

/-- What a handle tells. -/
def status (c : Coordinator σ π) : Status where
  state := c.state
  pending := MessageStores.pendingLength c.stores
  history := MessageStores.historyLength c.stores
  shuttingDown := c.isShuttingDown
  digest := c.digest

/-- The digest a message was applied with; a message created here is never skipped. -/
def appliedDigest : Except CoordinatorError Outcome → Except CoordinatorError Digest
  | .ok (.applied digest) => .ok digest
  | .ok .skipped => .ok ⟨0⟩
  | .error e => .error e

/-- Answers a call. -/
def answer (c : Coordinator σ π) : HandleCall → HandleAnswer × Coordinator σ π
  | .new message =>
    let (result, c') := c.handleNew message
    (.digest (appliedDigest result), c')
  | .remote message =>
    let (result, c') := c.handleRemote message
    (.outcome result, c')
  | .dequeue =>
    let (result, c') := c.dequeue
    (.message result, c')
  | .peek => (.message (storeResult (MessageStores.peek c.stores)), c)
  | .digest => (.digest c.digest, c)
  | .shutdown error =>
    let (accepted, c') := c.shutdown error
    (.accepted accepted, c')
  | .status => (.status c.status, c)

/-- Closes the stores, in the order they were opened. -/
def closeStores (c : Coordinator σ π) : Coordinator σ π :=
  { c with
    stores := MessageStores.closeState (MessageStores.closeHistory
      (MessageStores.closeQueue c.stores)) }

/-- Gives the lock of the data directory back. -/
def release (c : Coordinator σ π) : Coordinator σ π :=
  { c with stores := MessageStores.release c.stores }

end Coordinator

end Replica
