/-
Replication inside one process: channels between coordinators, and the drain
that hands the pending messages of one to the channel of another.
-/
import Replica.Coordinator.Handle

namespace Replica

/-- An unbounded channel of messages, first in first out. -/
structure Channel where
  messages : List Message := []
  /-- Whether the receiver is still there. -/
  isOpen : Bool := true
  deriving DecidableEq, Repr, Inhabited

namespace Channel

/-- Puts a message in; false if nobody will receive it. -/
def send (message : Message) (channel : Channel) : Bool × Channel :=
  if channel.isOpen then (true, { channel with messages := channel.messages ++ [message] })
  else (false, channel)

/-- The receiver goes away, and with it what it has not received. -/
def close (_channel : Channel) : Channel := ⟨[], false⟩

end Channel

namespace Loopback

variable {σ π : Type} [MessageStores σ] [Policy π]

/-- Takes up to `fuel` pending messages and sends each; ends when there is none, when taking one
fails, or when one cannot be sent. -/
def drainFrom : (fuel : Nat) → Coordinator σ π → Channel → Coordinator σ π × Channel
  | 0, c, channel => (c, channel)
  | fuel + 1, c, channel =>
    match c.dequeue with
    | (.ok (some message), c') =>
      match channel.send message with
      | (true, channel') => drainFrom fuel c' channel'
      | (false, channel') => (c', channel')
    | (_, c') => (c', channel)

/-- Hands all pending messages to a channel. -/
def drain (c : Coordinator σ π) (channel : Channel) : Coordinator σ π × Channel :=
  drainFrom (MessageStores.pendingLength c.stores) c channel

/-- Handles messages in order; each with its result. -/
def receiveAll : List Message → Coordinator σ π →
    List (MessageId × Except CoordinatorError Outcome) × Coordinator σ π
  | [], c => ([], c)
  | message :: rest, c =>
    let (result, c) := c.handleRemote message
    let (results, c) := receiveAll rest c
    ((message.id, result) :: results, c)

end Loopback

/-- A running loopback module. -/
structure LoopRun where
  /-- The number of its coordinator. -/
  coordinator : Nat
  /-- The number of the loop it delivers to. -/
  target : Option Nat
  /-- When it next drains the queue, in milliseconds. -/
  nextTick : Nat
  /-- Whether it has been asked to stop. -/
  stopping : Bool := false
  deriving DecidableEq, Repr, Inhabited

/-- A loopback module and the channel that feeds it. -/
structure Loop where
  name : String
  inbox : Channel := {}
  /-- What became of every message received, oldest first. -/
  outcomes : List (MessageId × Except CoordinatorError Outcome) := []
  /-- Whether the module has been started. -/
  started : Bool := false
  /-- What keeps it running, between its start and its end. -/
  run : Option LoopRun := none
  deriving Inhabited

namespace Loop

/-- Milliseconds between two drains. -/
def pollInterval : Nat := 3

/-- The module ends: nobody receives from its channel any more. -/
def finish (loop : Loop) : Loop := { loop with inbox := loop.inbox.close, run := none }

/-- Why a module does not start a second time. -/
def restartError : String := "loopback module already started"

end Loop

end Replica
