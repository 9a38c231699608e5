/-
Reading a history of applied messages, most recent first.

A `HistoryReader` is what a policy sees of a history. `HistoryReader.ofList`
reads a plain list of messages, oldest first; it is the meaning of a reader,
and the history stack's own reader answers as it does.
-/
import Replica.Message

namespace Replica

/-- A read-only view of a history. -/
structure HistoryReader where
  /-- The number of recorded messages. -/
  length : Nat
  /-- The message so many positions below the top. -/
  at? : Nat → Option Message
  /-- Whether a message with this identifier has been recorded. -/
  contains : MessageId → Bool
  /-- Every message, most recent first. -/
  recent : List Message

namespace HistoryReader

/-- Whether nothing has been recorded. -/
def isEmpty (reader : HistoryReader) : Bool := reader.length = 0

/-- The most recently recorded message. -/
def peek (reader : HistoryReader) : Option Message := reader.at? 0

/-- The message `offset` positions before the end of a list, counted from its last. -/
def fromEnd (messages : List Message) (offset : Nat) : Option Message :=
  if offset < messages.length then messages[messages.length - (offset + 1)]? else none

/-- Reads a plain list of messages, oldest first. -/
def ofList (messages : List Message) : HistoryReader where
  length := messages.length
  at? := fromEnd messages
  contains id := messages.any (·.id = id)
  recent := messages.reverse

end HistoryReader

end Replica
