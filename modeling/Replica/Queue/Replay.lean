/-
What a queue log says: replaying its records gives the messages still pending.

An enqueue record adds its message at the tail. A dequeue record names the
message it took, which must be the head; any other record means the log cannot
be trusted.
-/
import Replica.Fifo
import Replica.Message
import Replica.Log.Scan

namespace Replica

/-- What replaying a queue log gives. -/
structure QueueReplay where
  /-- Messages still pending, oldest first. -/
  pending : Fifo Message := {}
  /-- The number of messages the log has taken in and given out again. -/
  consumed : Nat := 0
  deriving Repr, Inhabited

/-- The name of the queue in errors. -/
def queueName : String := "pending-sync queue"

/-- The format of queue logs. -/
def queueFormat : LogFormat := ⟨⟨0x43, 0x53, 0x59, 0x51⟩, queueName⟩

namespace QueueReplay

/-- The payload of the record that takes a message. -/
def dequeuePayload (id : MessageId) : Bytes := littleEndian 8 id.value.toNat

/-- Takes one record into account. -/
def step (replay : QueueReplay) (record : LogRecord) : Except StoreError QueueReplay :=
  let damaged (damage : Damage) := Except.error (.corrupted queueName damage)
  match record.kind with
  | .enqueue =>
    match Message.decode queueName record.payload with
    | .error e => .error e
    | .ok message => .ok { replay with pending := replay.pending.push message }
  | .dequeue =>
    if record.payload.length ≠ 8 then damaged (.malformedDequeue record.offset)
    else
      let id : MessageId := ⟨UInt64.ofNat (fromLittleEndian record.payload)⟩
      match replay.pending.pop? with
      | some (head, rest) =>
        if head.id = id then .ok ⟨rest, replay.consumed + 1⟩
        else damaged (.wrongDequeue id record.offset head.id)
      | none => damaged (.dequeueOnEmpty id record.offset)
  | .push => damaged (.historyRecord record.offset)

/-- Replays records from a state on. -/
def run : QueueReplay → List LogRecord → Except StoreError QueueReplay
  | replay, [] => .ok replay
  | replay, record :: records =>
    match replay.step record with
    | .error e => .error e
    | .ok replay' => replay'.run records

end QueueReplay

/-- Replays the records of a queue log. -/
def replayQueue (records : List LogRecord) : Except StoreError QueueReplay :=
  QueueReplay.run {} records

end Replica
