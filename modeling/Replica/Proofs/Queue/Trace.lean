/-
Which queue logs are accepted.

What is pending at a point of a log can be told without replaying it: the messages of the
enqueue records so far, without as many at the front as there are dequeue records
(`pendingBehind`). `Continues` says by that which record may come next, and a log is a
`Trace` if every record of it may. Replaying accepts the traces and nothing else
(`replay_accepts_traces`), and it gives what was put in and not taken.
-/
import Replica.Proofs.Queue.Replay

namespace Replica
namespace QueueReplay

/-! ## What records say -/

/-- The message that a record puts in. -/
def message? (record : LogRecord) : Option Message :=
  match record.kind with
  | .enqueue => (Message.decode queueName record.payload).toOption
  | .dequeue | .push => none

/-- The messages that records put in, in order. -/
def entered (records : List LogRecord) : List Message := records.filterMap message?

/-- The records that take a message out, in order. -/
def takings (records : List LogRecord) : List LogRecord := records.filter (·.kind = .dequeue)

/-- **The messages pending behind records**: those put in, without one at the front for each that was
taken. -/
def pendingBehind (records : List LogRecord) : List Message :=
  (entered records).drop (takings records).length

/-- **Whether a record may come behind others**: it puts in a message that decodes, or it takes one
out and its payload is the identifier of the message at the head, in eight bytes. -/
def Continues (before : List LogRecord) (record : LogRecord) : Prop :=
  match record.kind with
  | .enqueue => ∃ message, Message.decode queueName record.payload = .ok message
  | .dequeue => ∃ head, (pendingBehind before).head? = some head ∧
      record.payload = littleEndian 8 head.id.value.toNat
  | .push => False

/-- **The records that a queue leaves**, behind some that stand already: each may come behind those
in front of it. -/
def Trace (standing records : List LogRecord) : Prop :=
  ∀ before record after, records = before ++ record :: after → Continues (standing ++ before) record

theorem trace_nil (standing : List LogRecord) : Trace standing [] := by
  intro before record after h
  simp at h

theorem trace_cons {standing records : List LogRecord} {record : LogRecord} :
    Trace standing (record :: records) ↔
      Continues standing record ∧ Trace (standing ++ [record]) records := by
  constructor
  · intro h
    refine ⟨by simpa using h [] record records rfl, fun before next after hsplit => ?_⟩
    have hnext := h (record :: before) next after (by rw [hsplit]; rfl)
    rwa [List.append_assoc, List.singleton_append]
  · rintro ⟨hfirst, hrest⟩ before next after hsplit
    cases before with
    | nil =>
      cases hsplit
      rwa [List.append_nil]
    | cons first before =>
      cases hsplit
      have hnext := hrest before next after rfl
      rwa [List.append_assoc, List.singleton_append] at hnext

theorem entered_snoc (records : List LogRecord) (record : LogRecord) :
    entered (records ++ [record]) = entered records ++ (message? record).toList := by
  rw [entered, List.filterMap_append]
  cases h : message? record <;> simp [entered, h]

theorem takings_snoc_of_dequeue (records : List LogRecord) {record : LogRecord}
    (h : record.kind = .dequeue) : takings (records ++ [record]) = takings records ++ [record] := by
  simp [takings, List.filter_append, h]

theorem takings_snoc_of_ne (records : List LogRecord) {record : LogRecord}
    (h : record.kind ≠ .dequeue) : takings (records ++ [record]) = takings records := by
  simp [takings, List.filter_append, h]

/-! ## What a replay holds -/

/-- **A replay behind records**: what it has given out are the messages that the dequeue records name,
and these and what is pending are the messages put in. -/
structure Behind (records : List LogRecord) (replay : QueueReplay) (given : List Message) : Prop where
  entered_eq : entered records = given ++ replay.pending.toList
  named : (takings records).map LogRecord.payload = given.map fun message => dequeuePayload message.id
  consumed : replay.consumed = (takings records).length

variable {records : List LogRecord} {replay replay' : QueueReplay} {given : List Message}
  {record : LogRecord}

theorem behind_nil : Behind [] {} [] := ⟨rfl, rfl, rfl⟩

namespace Behind

theorem length_given (h : Behind records replay given) : given.length = (takings records).length := by
  have hlength := congrArg List.length h.named
  rw [List.length_map, List.length_map] at hlength
  exact hlength.symm

theorem pending_eq (h : Behind records replay given) :
    replay.pending.toList = pendingBehind records := by
  rw [pendingBehind, h.entered_eq, ← h.length_given, List.drop_left]

theorem step_ok_iff_continues (h : Behind records replay given) :
    (∃ replay', replay.step record = .ok replay') ↔ Continues records record := by
  simp only [step_ok_iff, Continues, ← h.pending_eq]
  cases hkind : record.kind with
  | enqueue =>
    simp only [reduceCtorEq, false_and, or_false, true_and]
    constructor
    · rintro ⟨-, message, hdecode, -⟩
      exact ⟨message, hdecode⟩
    · rintro ⟨message, hdecode⟩
      exact ⟨_, message, hdecode, rfl⟩
  | dequeue =>
    simp only [reduceCtorEq, false_and, false_or, true_and]
    constructor
    · rintro ⟨-, head, rest, hpop, hnamed, -⟩
      exact ⟨head, by rw [Fifo.toList_of_pop? hpop, List.head?_cons], hnamed⟩
    · rintro ⟨head, hhead, hnamed⟩
      obtain ⟨behind, hpending⟩ := List.head?_eq_some_iff.1 hhead
      obtain ⟨rest, hpop, -⟩ := Fifo.pop?_of_toList hpending
      exact ⟨_, head, rest, hpop, hnamed, rfl⟩
  | push => simp

/-- **One record** leaves the replay behind one more. -/
theorem step (h : Behind records replay given) (hstep : replay.step record = .ok replay') :
    ∃ given', Behind (records ++ [record]) replay' given' := by
  rcases step_ok_iff.1 hstep with ⟨hkind, message, hdecode, rfl⟩ | ⟨hkind, head, rest, hpop, hnamed, rfl⟩
  · have hmessage : message? record = some message := by
      simp [message?, hkind, hdecode, Except.toOption]
    have htakings : takings (records ++ [record]) = takings records :=
      takings_snoc_of_ne records (by simp [hkind])
    refine ⟨given, ?_, by rw [htakings, h.named], by rw [htakings]; exact h.consumed⟩
    rw [entered_snoc, hmessage, h.entered_eq, Fifo.toList_push, List.append_assoc]
    rfl
  · have hmessage : message? record = none := by simp [message?, hkind]
    have htakings := takings_snoc_of_dequeue records hkind
    refine ⟨given ++ [head], ?_, ?_, ?_⟩
    · rw [entered_snoc, hmessage, h.entered_eq, Fifo.toList_of_pop? hpop]
      simp
    · rw [htakings, List.map_append, List.map_append, h.named, List.map_singleton, hnamed]
      rfl
    · rw [htakings, List.length_append, h.consumed]
      rfl

/-- **A whole replay** ends behind all the records. -/
theorem run {more : List LogRecord} (h : Behind records replay given)
    (hrun : replay.run more = .ok replay') : ∃ given', Behind (records ++ more) replay' given' := by
  induction more generalizing records replay given with
  | nil =>
    cases hrun
    exact ⟨given, by rwa [List.append_nil]⟩
  | cons record more ih =>
    rw [QueueReplay.run] at hrun
    split at hrun
    · cases hrun
    · rename_i replay₁ hstep
      obtain ⟨given₁, hnext⟩ := h.step hstep
      obtain ⟨given', hbehind⟩ := ih hnext hrun
      exact ⟨given', by rwa [List.append_assoc, List.singleton_append] at hbehind⟩

/-- **Records are accepted** exactly if each may come behind those in front of it. -/
theorem run_ok_iff_trace {more : List LogRecord} (h : Behind records replay given) :
    (∃ replay', replay.run more = .ok replay') ↔ Trace records more := by
  -- each record to come joins those that stand already, so these are general in the induction
  induction more generalizing records replay given with
  | nil => exact iff_of_true ⟨replay, rfl⟩ (trace_nil records)
  | cons record more ih =>
    rw [trace_cons, ← h.step_ok_iff_continues]
    simp only [QueueReplay.run]
    cases hstep : replay.step record with
    | error e => simp
    | ok replay₁ =>
      obtain ⟨given₁, hnext⟩ := h.step hstep
      simp [ih hnext]

end Behind
end QueueReplay

open QueueReplay

/-- **A queue log is accepted exactly if it is the trace of a queue.** Then the messages that its
enqueue records put in are, in order, those given out and behind them those pending; those given out
are the ones that the dequeue records name, and they are counted. A log may be split anywhere and its
second part replayed from where the first one ended. A log that is refused is damaged. -/
theorem replay_accepts_traces (records : List LogRecord) :
    ((∃ replay, replayQueue records = .ok replay) ↔ Trace [] records) ∧
      (∀ replay, replayQueue records = .ok replay → ∃ given : List Message,
        entered records = given ++ replay.pending.toList ∧
          (takings records).map LogRecord.payload =
            (given.map fun message => littleEndian 8 message.id.value.toNat) ∧
          given.length = replay.consumed ∧ replay.consumed = (takings records).length) ∧
      (∀ before after, records = before ++ after →
        replayQueue records =
          match replayQueue before with
          | .error e => .error e
          | .ok replay => replay.run after) ∧
      ∀ e, replayQueue records = .error e → e.isCorruption = true := by
  refine ⟨behind_nil.run_ok_iff_trace, fun replay hreplay => ?_, ?_, fun e => isCorruption_of_run⟩
  · obtain ⟨given, hbehind⟩ := behind_nil.run hreplay
    rw [List.nil_append] at hbehind
    exact ⟨given, hbehind.entered_eq, hbehind.named, by rw [hbehind.length_given, hbehind.consumed],
      hbehind.consumed⟩
  · rintro before after rfl
    exact run_append {} before after

/-- A record that takes another message than the one at the head. -/
example : replayQueue [⟨0, .enqueue, (⟨⟨1⟩, []⟩ : Message).toBytes⟩,
    ⟨27, .dequeue, dequeuePayload ⟨2⟩⟩] =
      .error (.corrupted queueName (.wrongDequeue ⟨2⟩ 27 ⟨1⟩)) := by rfl

end Replica
