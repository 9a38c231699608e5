/-
The queue in memory and the log below it.

`Queue.Agrees` is the invariant: the bytes of the log are intact records, and
replaying them gives the pending messages. Opening a queue establishes it. Every
call keeps it, whatever the byte store lets fail, as long as a log can be cut
back after a failed append; and every call answers as on a plain list. A log that
is not dropped when the queue runs empty replays to no message either.
-/
import Replica.Queue
import Replica.Proofs.Log
import Replica.Proofs.Queue.Replay

namespace Replica

/-! ## Appending, and what it fails with -/

theorem Log.append_error_cause {σ ω : Type} [ByteStore σ ω] {log log' : Log σ} {world world' : ω}
    {kind : RecordKind} {payload : Bytes} {e : StoreError}
    (hrun : Log.append kind payload (log, world) = .error e (log', world')) :
    (∃ cause, e = .storage cause) ∨
      Frame.maxPayload < payload.length ∧ e = .messageTooLarge payload.length Frame.maxPayload := by
  rcases Log.append_error_cases hrun with ⟨hencode, -⟩ | ⟨frame, cause, s, -, -, hcause, -⟩
  · unfold Frame.encode at hencode
    split at hencode
    · rename_i hlong
      cases hencode
      exact .inr ⟨hlong, rfl⟩
    · cases hencode
  · exact .inl ⟨cause, hcause⟩

/-- Whether a store failed because it was closed. -/
def StoreError.isClosed : StoreError → Bool
  | closed _ => true
  | _ => false

theorem Log.append_error_isClosed {σ ω : Type} [ByteStore σ ω] {log log' : Log σ} {world world' : ω}
    {kind : RecordKind} {payload : Bytes} {e : StoreError}
    (hrun : Log.append kind payload (log, world) = .error e (log', world')) : e.isClosed = false := by
  rcases Log.append_error_cause hrun with ⟨cause, rfl⟩ | ⟨-, rfl⟩
  · rfl
  · rfl

theorem Message.encode_error_isClosed {message : Message} {e : StoreError}
    (h : message.encode = .error e) : e.isClosed = false := by
  unfold Message.encode at h
  split at h
  · cases h
    rfl
  · cases h

namespace Queue

variable {σ ω : Type} [ByteStore σ ω]

/-! ## The calls, written out -/

theorem enqueue_eq {queue : Queue σ} {log : Log σ} (hlog : queue.log = some log)
    (message : Message) (world : ω) :
    enqueue message (queue, world) =
      match message.encode with
      | .error e => .error e (queue, world)
      | .ok payload =>
        match Log.append .enqueue payload (log, world) with
        | .error e (log', world') => .error e ({ queue with log := some log' }, world')
        | .ok _ (log', world') =>
          .ok () ({ queue with log := some log', pending := queue.pending ++ [message] }, world') := by
  obtain ⟨path, _, pending⟩ := queue
  cases hlog
  simp only [enqueue, bind, EStateM.bind, withLog]
  cases message.encode with
  | error e => rfl
  | ok payload =>
    simp only [EStateM.bind]
    cases Log.append .enqueue payload (log, world) <;> rfl

theorem resetDrained_eq {queue : Queue σ} {log : Log σ} (hlog : queue.log = some log) (world : ω) :
    resetDrained (queue, world) =
      if queue.pending = [] then
        match Log.reset (log, world) with
        | .ok _ (log', world') => .ok () ({ queue with log := some log' }, world')
        | .error _ (log', world') => .ok () ({ queue with log := some log' }, world')
      else .ok () (queue, world) := by
  simp only [resetDrained, withLog, hlog]
  split
  · cases Log.reset (log, world) <;> rfl
  · rfl

theorem resetDrained_ne_error (s s' : Queue σ × ω) (e : StoreError) :
    resetDrained s ≠ .error e s' := by
  obtain ⟨queue, world⟩ := s
  intro h
  simp only [resetDrained] at h
  split at h
  · split at h <;> cases h
  · cases h

theorem dequeue_of_nil {queue : Queue σ} {log : Log σ} (hlog : queue.log = some log)
    (hnil : queue.pending = []) (world : ω) :
    dequeue (queue, world) = .ok none (queue, world) := by
  simp only [dequeue, bind, EStateM.bind, get_apply, isClosed, hlog,
    hnil]
  rfl

theorem dequeue_of_cons {queue : Queue σ} {log : Log σ} (hlog : queue.log = some log)
    {head : Message} {rest : List Message} (hcons : queue.pending = head :: rest) (world : ω) :
    dequeue (queue, world) =
      match Log.append .dequeue (QueueReplay.dequeuePayload head.id) (log, world) with
      | .error e (log', world') => .error e ({ queue with log := some log' }, world')
      | .ok _ (log', world') =>
        match resetDrained ({ queue with log := some log', pending := rest }, world') with
        | .error e s => .error e s
        | .ok _ s => .ok (some head) s := by
  obtain ⟨path, _, pending⟩ := queue
  cases hlog
  cases hcons
  simp only [dequeue, bind, EStateM.bind, get_apply, isClosed,
    Option.isNone_some, Bool.false_eq_true, ↓reduceIte, withLog]
  cases Log.append .dequeue (QueueReplay.dequeuePayload head.id) (log, world) with
  | error e s => rfl
  | ok offset s =>
    obtain ⟨log', world'⟩ := s
    simp only [pure, EStateM.pure, modify_apply]
    cases resetDrained (({ path, log := some log', pending := rest } : Queue σ), world') <;> rfl

/-! ### Closed queues -/

theorem enqueue_of_isClosed {queue : Queue σ} (h : queue.isClosed = true) (message : Message)
    (world : ω) :
    enqueue message (queue, world) = .error (.closed queueName) (queue, world) := by
  have hlog : queue.log = none := Option.isNone_iff_eq_none.1 h
  simp only [enqueue, bind, EStateM.bind, withLog, hlog]

theorem dequeue_of_isClosed {queue : Queue σ} (h : queue.isClosed = true) (world : ω) :
    dequeue (queue, world) = .error (.closed queueName) (queue, world) := by
  simp only [dequeue, bind, EStateM.bind, get_apply, h, if_true]
  rfl

theorem close_of_isClosed {queue : Queue σ} (h : queue.isClosed = true) (world : ω) :
    close (queue, world) = .ok () (queue, world) := by
  have hlog : queue.log = none := Option.isNone_iff_eq_none.1 h
  simp only [close, hlog]

/-- A close lets the log go and nothing else, whatever comes of it. -/
theorem close_leaves (queue : Queue σ) (world : ω) :
    (outcome close (queue, world)).2.1 = { queue with log := none } := by
  obtain ⟨path, log, pending⟩ := queue
  cases log with
  | none => rfl
  | some log =>
    simp only [outcome, close]
    cases Log.sync (log, world) <;> rfl

theorem isClosed_close (queue : Queue σ) (world : ω) :
    (outcome close (queue, world)).2.1.isClosed = true := by
  rw [close_leaves]
  rfl

theorem length_close (queue : Queue σ) (world : ω) :
    (outcome close (queue, world)).2.1.length = queue.length := by
  rw [close_leaves]
  rfl

theorem attach_eq (options : StoreOptions) (s : σ × ω) :
    attach options s =
      match Log.recover queueFormat s with
      | .error e s' => .error e s'
      | .ok records s' =>
        match replayQueue records with
        | .error e => .error e s'
        | .ok replay =>
          .ok ⟨none, some ⟨s'.1, queueFormat, options.syncOnWrite⟩, replay.pending.toList⟩ s' := by
  simp only [attach, bind, EStateM.bind]
  cases Log.recover queueFormat s with
  | error e s' => rfl
  | ok records s' =>
    dsimp only
    cases replayQueue records <;> rfl

/-! ## Queue and log in agreement -/

/-- **The log says what is pending**: its bytes are intact records that replay to it. -/
def Agrees (C : ByteStore.Contract σ ω) (queue : Queue σ) (world : ω) : Prop :=
  ∃ log, queue.log = some log ∧ log.format = queueFormat ∧
    ∃ image replay, C.Holds log.store world image ∧ Replays image replay ∧
      replay.pending.toList = queue.pending

/-- Whether the log can be cut back if this record cannot be appended. -/
def CutsBack (queue : Queue σ) (world : ω) (kind : RecordKind) (payload : Bytes) : Prop :=
  ∀ log, queue.log = some log → ∀ frame, Frame.encode log.format.magic kind payload = .ok frame →
    log.RollsBack world frame

section Contract

variable {C : ByteStore.Contract σ ω} {queue queue' : Queue σ} {world world' : ω}
  {message : Message} {e : StoreError}

theorem agrees_attach {options : StoreOptions} {store store' : σ} {image : Bytes}
    (h : C.Holds store world image)
    (hrun : attach options (store, world) = .ok queue (store', world')) :
    Agrees C queue world' := by
  rw [attach_eq] at hrun
  split at hrun
  · cases hrun
  · rename_i records s hrecover
    obtain ⟨store₁, world₁⟩ := s
    obtain ⟨found, -, rfl, hheld, hwalk⟩ := Log.recover_ok h hrecover
    split at hrun
    · cases hrun
    · rename_i replay hreplay
      cases hrun
      exact ⟨_, rfl, rfl, _, replay, hheld, ⟨_, hwalk.scanFrom_eq_ok, rfl, hreplay⟩, rfl⟩

theorem enqueue_ok {a : Unit} (h : Agrees C queue world)
    (hrun : enqueue message (queue, world) = .ok a (queue', world')) :
    Agrees C queue' world' ∧ queue'.pending = queue.pending ++ [message] := by
  obtain ⟨log, hlog, hformat, image, replay, hheld, hreplays, hpending⟩ := h
  rw [enqueue_eq hlog] at hrun
  split at hrun
  · cases hrun
  · rename_i payload hencode
    obtain ⟨hmessage, rfl⟩ := Message.encode_eq_ok_iff.1 hencode
    split at hrun
    · cases hrun
    · rename_i log₁ world₁ happend
      cases hrun
      obtain ⟨hfits, -, store₁, rfl, hheld'⟩ := Log.append_ok hheld happend
      rw [hformat] at hheld'
      exact ⟨⟨_, rfl, hformat, _, _, hheld', hreplays.enqueue hmessage hfits, by simp [hpending]⟩, rfl⟩

theorem enqueue_error (h : Agrees C queue world)
    (hcut : queue.CutsBack world .enqueue message.toBytes)
    (hrun : enqueue message (queue, world) = .error e (queue', world')) :
    Agrees C queue' world' ∧ queue'.pending = queue.pending := by
  obtain ⟨log, hlog, hformat, image, replay, hheld, hreplays, hpending⟩ := h
  rw [enqueue_eq hlog] at hrun
  split at hrun
  · cases hrun
    exact ⟨⟨log, hlog, hformat, image, replay, hheld, hreplays, hpending⟩, rfl⟩
  · rename_i payload hencode
    obtain ⟨-, rfl⟩ := Message.encode_eq_ok_iff.1 hencode
    split at hrun
    · rename_i e' log₁ world₁ happend
      cases hrun
      obtain ⟨store₁, rfl, hheld'⟩ := Log.append_error hheld (hcut log hlog) happend
      exact ⟨⟨_, rfl, hformat, image, replay, hheld', hreplays, hpending⟩, rfl⟩
    · cases hrun

/-- Dropping the log of a queue that ran empty, or failing to, changes nothing it says. -/
theorem resetDrained_ok {a : Unit} (h : Agrees C queue world)
    (hrun : resetDrained (queue, world) = .ok a (queue', world')) :
    Agrees C queue' world' ∧ queue'.pending = queue.pending := by
  obtain ⟨log, hlog, hformat, image, replay, hheld, hreplays, hpending⟩ := h
  rw [resetDrained_eq hlog] at hrun
  split at hrun
  · rename_i hnil
    split at hrun
    · rename_i log₁ world₁ hreset
      cases hrun
      obtain ⟨store₁, rfl, hheld'⟩ := Log.reset_ok hheld hreset
      exact ⟨⟨_, rfl, hformat, [], {}, hheld', .nil, hnil.symm⟩, rfl⟩
    · rename_i log₁ world₁ hreset
      cases hrun
      obtain ⟨store₁, rfl, hheld'⟩ := Log.reset_error hheld hreset
      exact ⟨⟨_, rfl, hformat, image, replay, hheld', hreplays, hpending⟩, rfl⟩
  · cases hrun
    exact ⟨⟨log, hlog, hformat, image, replay, hheld, hreplays, hpending⟩, rfl⟩

theorem agrees_of_append_dequeue {log log' : Log σ} {head : Message} {rest : List Message}
    {offset : Nat} (h : Agrees C queue world) (hlog : queue.log = some log)
    (hcons : queue.pending = head :: rest)
    (hrun : Log.append .dequeue (QueueReplay.dequeuePayload head.id) (log, world) =
      .ok offset (log', world')) :
    Agrees C { queue with log := some log', pending := rest } world' := by
  obtain ⟨log₀, hlog₀, hformat, image, replay, hheld, hreplays, hpending⟩ := h
  obtain rfl : log₀ = log := Option.some.inj (hlog₀.symm.trans hlog)
  rw [hcons] at hpending
  obtain ⟨pending, hpop, hrest⟩ := Fifo.pop?_of_toList hpending
  obtain ⟨-, -, store₁, rfl, hheld'⟩ := Log.append_ok hheld hrun
  rw [hformat] at hheld'
  exact ⟨_, rfl, hformat, _, _, hheld', hreplays.dequeue hpop, hrest⟩

theorem dequeue_ok {given : Option Message} (h : Agrees C queue world)
    (hrun : dequeue (queue, world) = .ok given (queue', world')) :
    Agrees C queue' world' ∧ given = queue.pending.head? ∧ queue'.pending = queue.pending.tail := by
  obtain ⟨log, hlog, -⟩ := id h
  cases hpending : queue.pending with
  | nil =>
    rw [dequeue_of_nil hlog hpending] at hrun
    cases hrun
    exact ⟨h, rfl, hpending⟩
  | cons head rest =>
    rw [dequeue_of_cons hlog hpending] at hrun
    split at hrun
    · cases hrun
    · rename_i offset log₁ world₁ happend
      have hagrees := agrees_of_append_dequeue h hlog hpending happend
      split at hrun
      · cases hrun
      · rename_i s hreset
        obtain ⟨queue₂, world₂⟩ := s
        cases hrun
        obtain ⟨hagrees', hkeeps⟩ := resetDrained_ok hagrees hreset
        exact ⟨hagrees', rfl, hkeeps⟩

theorem dequeue_error (h : Agrees C queue world)
    (hcut : ∀ head rest, queue.pending = head :: rest →
      queue.CutsBack world .dequeue (QueueReplay.dequeuePayload head.id))
    (hrun : dequeue (queue, world) = .error e (queue', world')) :
    Agrees C queue' world' ∧ queue'.pending = queue.pending := by
  obtain ⟨log, hlog, hformat, image, replay, hheld, hreplays, hpending⟩ := id h
  cases hcase : queue.pending with
  | nil =>
    rw [dequeue_of_nil hlog hcase] at hrun
    cases hrun
  | cons head rest =>
    rw [dequeue_of_cons hlog hcase] at hrun
    split at hrun
    · rename_i e' log₁ world₁ happend
      cases hrun
      obtain ⟨store₁, rfl, hheld'⟩ := Log.append_error hheld (hcut head rest hcase log hlog) happend
      exact ⟨⟨_, rfl, hformat, image, replay, hheld', hreplays, hpending⟩, hcase⟩
    · split at hrun
      · rename_i hfailed
        exact absurd hfailed (resetDrained_ne_error _ _ _)
      · cases hrun

end Contract

end Queue

end Replica
