/-
A policy that records every question and every message, and can be told what to
decline and what to fail on.

On top of its own decision it can ask a rule about the history; the rule is
asked only about messages it would otherwise accept, and the recorded decision
is the one made without it.
-/
import Replica.Coordinator.Policy

namespace Replica

/-- A rule about the history that a wanted message has to meet. -/
inductive HistoryRule
  | any
  /-- The identifier is above that of the latest message. -/
  | newer
  /-- The identifier is not among the `n` latest. -/
  | window (n : Nat)
  /-- There are fewer than `n` messages. -/
  | fewer (n : Nat)
  /-- There is no message `n` positions below the top. -/
  | nothingAt (n : Nat)
  /-- There is no message at all. -/
  | first
  deriving DecidableEq, Repr, Inhabited

/-- Whether a message meets the rule. -/
def HistoryRule.allows (rule : HistoryRule) (message : Message) (history : HistoryReader) : Bool :=
  match rule with
  | any => true
  | newer =>
    history.isEmpty || match history.peek with
      | some latest => decide (latest.id.value < message.id.value)
      | none => true
  | window n => !(history.recent.take n).any (·.id = message.id)
  | fewer n => history.length < n
  | nothingAt n => (history.at? n).isNone
  | first => history.isEmpty

/-- A policy that records what it is asked. -/
structure RecordingPolicy where
  /-- Declines remote messages whose identifier is in the history. -/
  deduplicates : Bool := false
  /-- The identifiers it fails on. -/
  failOn : List MessageId := []
  /-- The identifiers it declines. -/
  rejected : List MessageId := []
  rule : HistoryRule := .any
  /-- Every message handed to it, oldest first. -/
  processed : List (MessageId × Origin) := []
  /-- Every decision, oldest first. -/
  decisions : List (MessageId × Bool) := []
  /-- How many messages it is working on. -/
  inFlight : Nat := 0
  /-- The most it was working on at once. -/
  maxInFlight : Nat := 0
  deriving DecidableEq, Repr, Inhabited

namespace RecordingPolicy

/-- The decision the policy records. -/
def wants (policy : RecordingPolicy) (message : Message) (history : HistoryReader) : Bool :=
  message.id ∉ policy.rejected && !(policy.deduplicates && history.contains message.id)

/-- Decides about a remote message. -/
def decide (message : Message) (history : HistoryReader) (policy : RecordingPolicy) :
    Bool × RecordingPolicy :=
  let wanted := policy.wants message history
  (wanted && policy.rule.allows message history,
    { policy with decisions := policy.decisions ++ [(message.id, wanted)] })

/-- Starts working on a message. -/
def enter (policy : RecordingPolicy) : RecordingPolicy :=
  { policy with
    inFlight := policy.inFlight + 1
    maxInFlight := max policy.maxInFlight (policy.inFlight + 1) }

/-- Has worked on a message. -/
def leave (message : Message) (origin : Origin) (policy : RecordingPolicy) : RecordingPolicy :=
  { policy with
    processed := policy.processed ++ [(message.id, origin)]
    inFlight := policy.inFlight - 1 }

/-- Works on a message. -/
def process (message : Message) (origin : Origin) (policy : RecordingPolicy) :
    Except String Unit × RecordingPolicy :=
  let policy := policy.enter.leave message origin
  if message.id ∈ policy.failOn then (.error s!"refusing to process {message.id.text}", policy)
  else (.ok (), policy)

end RecordingPolicy

instance : Policy RecordingPolicy where
  shouldProcess := RecordingPolicy.decide
  process := RecordingPolicy.process

end Replica
