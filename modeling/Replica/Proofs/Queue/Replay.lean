/-
What the bytes of a queue log say, and what one more record makes them say.
-/
import Replica.Queue.Replay
import Replica.Proofs.Log.Scan
import Replica.Proofs.Message

namespace Replica

open Scan

theorem Fifo.pop?_of_toList {α : Type} {q : Fifo α} {a : α} {as : List α}
    (h : q.toList = a :: as) : ∃ q', q.pop? = some (a, q') ∧ q'.toList = as := by
  cases hpop : q.pop? with
  | none =>
    rw [(pop?_eq_none_iff q).1 hpop] at h
    cases h
  | some p =>
    obtain ⟨b, q'⟩ := p
    rw [toList_of_pop? hpop] at h
    cases h
    exact ⟨q', rfl, rfl⟩

namespace QueueReplay

theorem run_append (replay : QueueReplay) (before after : List LogRecord) :
    replay.run (before ++ after) =
      match replay.run before with
      | .error e => .error e
      | .ok replay' => replay'.run after := by
  induction before generalizing replay with
  | nil => rfl
  | cons record before ih =>
    rw [List.cons_append, run, run]
    cases replay.step record with
    | error e => rfl
    | ok replay' => exact ih replay'

theorem run_singleton (replay : QueueReplay) (record : LogRecord) :
    replay.run [record] = replay.step record := by
  rw [run]
  cases replay.step record <;> rfl

theorem step_enqueue (replay : QueueReplay) (offset : Nat) {message : Message}
    (h : message.payload.length ≤ Message.maxPayload) :
    replay.step ⟨offset, .enqueue, message.toBytes⟩ =
      .ok { replay with pending := replay.pending.push message } := by
  simp only [step, Message.decode_toBytes queueName h]

theorem length_dequeuePayload (id : MessageId) : (dequeuePayload id).length = 8 :=
  length_littleEndian 8 _

theorem fromLittleEndian_dequeuePayload (id : MessageId) :
    (⟨UInt64.ofNat (fromLittleEndian (dequeuePayload id))⟩ : MessageId) = id := by
  have hlt : id.value.toNat < capacity 8 := UInt64.toNat_lt _
  rw [dequeuePayload, fromLittleEndian_littleEndian hlt, UInt64.ofNat_toNat]

theorem step_dequeue {replay : QueueReplay} (offset : Nat) {head : Message} {rest : Fifo Message}
    (h : replay.pending.pop? = some (head, rest)) :
    replay.step ⟨offset, .dequeue, dequeuePayload head.id⟩ =
      .ok ⟨rest, replay.consumed + 1⟩ := by
  simp [step, length_dequeuePayload, fromLittleEndian_dequeuePayload, h]

theorem eq_dequeuePayload_iff {payload : Bytes} {id : MessageId} :
    payload = dequeuePayload id ↔
      payload.length = 8 ∧ (⟨UInt64.ofNat (fromLittleEndian payload)⟩ : MessageId) = id := by
  constructor
  · rintro rfl
    exact ⟨length_dequeuePayload id, fromLittleEndian_dequeuePayload id⟩
  · rintro ⟨hlength, rfl⟩
    have hlt := fromLittleEndian_lt payload
    rw [hlength] at hlt
    rw [dequeuePayload, UInt64.toNat_ofNat_of_lt' hlt, ← hlength, littleEndian_fromLittleEndian]

/-- **What one record does**: it adds the message in it, or takes the head away that it names. -/
theorem step_ok_iff {replay replay' : QueueReplay} {record : LogRecord} :
    replay.step record = .ok replay' ↔
      (record.kind = .enqueue ∧ ∃ message, Message.decode queueName record.payload = .ok message ∧
          replay' = { replay with pending := replay.pending.push message }) ∨
        (record.kind = .dequeue ∧ ∃ head rest, replay.pending.pop? = some (head, rest) ∧
          record.payload = dequeuePayload head.id ∧ replay' = ⟨rest, replay.consumed + 1⟩) := by
  obtain ⟨offset, kind, payload⟩ := record
  cases kind with
  | enqueue =>
    cases hdecode : Message.decode queueName payload <;> simp [step, hdecode, eq_comm]
  | dequeue =>
    simp only [reduceCtorEq, false_and, false_or, true_and, eq_dequeuePayload_iff, step]
    by_cases hlength : payload.length = 8
    · simp only [hlength, ne_eq, not_true_eq_false, if_false, true_and]
      cases hpop : replay.pending.pop? with
      | none => simp
      | some popped =>
        obtain ⟨head, rest⟩ := popped
        by_cases hid : head.id = ⟨UInt64.ofNat (fromLittleEndian payload)⟩
        · simp only [hid, if_true, Except.ok.injEq]
          constructor
          · rintro rfl
            exact ⟨head, rest, rfl, hid.symm, rfl⟩
          · rintro ⟨-, -, ⟨⟩, -, rfl⟩
            rfl
        · simp [hid, Ne.symm hid]
    · simp [hlength]
  | push => simp [step]

theorem isCorruption_of_step {replay : QueueReplay} {record : LogRecord} {error : StoreError}
    (h : replay.step record = .error error) : error.isCorruption = true := by
  unfold step at h
  dsimp only at h
  split at h
  · split at h
    · rename_i hdecode
      cases h
      exact Message.isCorruption_of_decode hdecode
    · cases h
  · split at h
    · cases h
      rfl
    · split at h
      · split at h
        · cases h
        · cases h
          rfl
      · cases h
        rfl
  · cases h
    rfl

theorem isCorruption_of_run {replay : QueueReplay} {records : List LogRecord} {error : StoreError}
    (h : replay.run records = .error error) : error.isCorruption = true := by
  induction records generalizing replay with
  | nil => cases h
  | cons record records ih =>
    rw [run] at h
    split at h
    · rename_i hstep
      cases h
      exact isCorruption_of_step hstep
    · exact ih h

/-- What is pending came out of records, and fits in one again. -/
theorem run_fits {replay replay' : QueueReplay} {records : List LogRecord}
    (h : replay.run records = .ok replay') (hpending : ∀ message ∈ replay.pending.toList, message.Fits)
    (hrecords : ∀ record ∈ records, record.payload.length ≤ Frame.maxPayload) :
    ∀ message ∈ replay'.pending.toList, message.Fits := by
  induction records generalizing replay with
  | nil =>
    cases h
    exact hpending
  | cons record records ih =>
    obtain ⟨hrecord, hrest⟩ := List.forall_mem_cons.1 hrecords
    rw [run] at h
    split at h
    · cases h
    rename_i replay₁ hstep
    refine ih h ?_ hrest
    rcases step_ok_iff.1 hstep with ⟨-, message, hdecode, rfl⟩ | ⟨-, head, rest, hpop, -, rfl⟩
    · rw [Fifo.toList_push]
      intro other hother
      rcases List.mem_append.1 hother with hold | hnew
      · exact hpending other hold
      · rw [List.mem_singleton.1 hnew, Message.Fits, Message.length_toBytes_of_decode hdecode]
        exact hrecord
    · intro other hother
      refine hpending other ?_
      rw [Fifo.toList_of_pop? hpop]
      exact List.mem_cons_of_mem head hother

/-- Every record is one of a message that is pending, or one of two of a message given out. -/
theorem run_length {replay replay' : QueueReplay} {records : List LogRecord}
    (h : replay.run records = .ok replay') :
    replay'.pending.toList.length + 2 * replay'.consumed =
      replay.pending.toList.length + 2 * replay.consumed + records.length := by
  induction records generalizing replay with
  | nil =>
    cases h
    rfl
  | cons record records ih =>
    rw [run] at h
    split at h
    · cases h
    rename_i replay₁ hstep
    rw [ih h, List.length_cons]
    rcases step_ok_iff.1 hstep with ⟨-, message, -, rfl⟩ | ⟨-, head, rest, hpop, -, rfl⟩
    · simp only [Fifo.toList_push, List.length_append, List.length_singleton]
      omega
    · simp only [Fifo.toList_of_pop? hpop, List.length_cons]
      omega

end QueueReplay

/-- **What a queue log says**: its bytes are intact records, and replaying these gives `replay`. -/
def Replays (image : Bytes) (replay : QueueReplay) : Prop :=
  ∃ found, scan queueFormat image = .ok found ∧ found.tornTail = none ∧
    replayQueue found.records = .ok replay

namespace Replays

variable {image : Bytes} {replay : QueueReplay}

theorem nil : Replays [] {} := ⟨_, scan_nil queueFormat, rfl, rfl⟩

theorem append (h : Replays image replay) {kind : RecordKind} {payload : Bytes}
    {replay' : QueueReplay} (hfits : payload.length ≤ Frame.maxPayload)
    (hstep : replay.step ⟨image.length, kind, payload⟩ = .ok replay') :
    Replays (image ++ Frame.toBytes queueFormat.magic kind payload) replay' := by
  obtain ⟨found, hscan, hwhole, hreplay⟩ := h
  have hwalk := scanFrom_eq_ok_iff.1 hscan
  have hframe := (@walk_toBytes queueFormat image.length kind payload hfits).scanFrom_eq_ok
  refine ⟨⟨found.records ++ [⟨image.length, kind, payload⟩],
    image.length + Frame.length payload.length, none⟩, ?_, rfl, ?_⟩
  · rw [scan, hwalk.scanFrom_append hwhole, Nat.zero_add, hframe]
    rfl
  · rw [replayQueue] at hreplay ⊢
    rw [QueueReplay.run_append, hreplay]
    exact (QueueReplay.run_singleton _ _).trans hstep

theorem enqueue (h : Replays image replay) {message : Message}
    (hmessage : message.payload.length ≤ Message.maxPayload)
    (hfits : message.toBytes.length ≤ Frame.maxPayload) :
    Replays (image ++ Frame.toBytes queueFormat.magic .enqueue message.toBytes)
      { replay with pending := replay.pending.push message } :=
  h.append hfits (QueueReplay.step_enqueue replay _ hmessage)

theorem dequeue (h : Replays image replay) {head : Message} {rest : Fifo Message}
    (hpop : replay.pending.pop? = some (head, rest)) :
    Replays (image ++ Frame.toBytes queueFormat.magic .dequeue
      (QueueReplay.dequeuePayload head.id)) ⟨rest, replay.consumed + 1⟩ := by
  refine h.append ?_ (QueueReplay.step_dequeue _ hpop)
  rw [QueueReplay.length_dequeuePayload]
  decide

theorem fits (h : Replays image replay) : ∀ message ∈ replay.pending.toList, message.Fits := by
  obtain ⟨found, hscan, -, hreplay⟩ := h
  exact QueueReplay.run_fits hreplay (by simp) (scanFrom_eq_ok_iff.1 hscan).payload_le

theorem eq_nil (h : Replays image replay) (hpending : replay.pending.toList = [])
    (hconsumed : replay.consumed = 0) : image = [] := by
  obtain ⟨found, hscan, hwhole, hreplay⟩ := h
  have hlen := QueueReplay.run_length hreplay
  rw [hpending, hconsumed] at hlen
  refine (scanFrom_eq_ok_iff.1 hscan).eq_nil hwhole (List.eq_nil_of_length_eq_zero ?_)
  simpa using hlen.symm

end Replays

end Replica
