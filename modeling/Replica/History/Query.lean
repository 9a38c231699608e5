/-
Questions to a history and what a reader of it answers.
-/
import Replica.Policy.Recording

namespace Replica

/-- A question to a history. -/
inductive HistoryQuery
  | length
  | isEmpty
  | peek
  /-- The message so many positions below the top. -/
  | below (offset : Nat)
  | contains (id : MessageId)
  | recent
  /-- Whether a recording policy wants a message with this identifier. -/
  | shouldProcess (id : MessageId) (deduplicates : Bool) (rejected : List MessageId)
  deriving DecidableEq, Repr, Inhabited

/-- The answer to a question. -/
inductive HistoryFinding
  | count (value : Nat)
  | truth (value : Bool)
  | message (value : Option Message)
  | ids (value : List MessageId)
  deriving DecidableEq, Repr, Inhabited

namespace HistoryReader

/-- Answers a question. -/
def ask (reader : HistoryReader) : HistoryQuery → HistoryFinding
  | .length => .count reader.length
  | .isEmpty => .truth reader.isEmpty
  | .peek => .message reader.peek
  | .below offset => .message (reader.at? offset)
  | .contains id => .truth (reader.contains id)
  | .recent => .ids (reader.recent.map (·.id))
  | .shouldProcess id deduplicates rejected =>
    let policy : RecordingPolicy := { deduplicates, rejected }
    .truth (policy.decide ⟨id, []⟩ reader).1

end HistoryReader

end Replica
