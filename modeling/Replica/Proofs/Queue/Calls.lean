/-
Runs of a queue over a byte store that fails now and then.

A run is any list of calls, each made where the one before it left off. The
store may fail at any call; the only failure excluded is that of cutting the log
back after a failed append (`CutBackAlong`). Then every call answers as on a plain
list, an error changes nothing, and the log never says anything else than what is
in memory (`agrees_run`, `fifo_of_attach`).
-/
import Replica.Proofs.Log.Memory
import Replica.Proofs.Queue

namespace Replica

/-- A call of a queue. -/
inductive QueueCall
  | enqueue (message : Message)
  | dequeue
  | peek
  | snapshot (limit : Nat)
  deriving DecidableEq, Repr, Inhabited

/-- What a call that succeeds returns. -/
inductive QueueReply
  | accepted
  | message (message : Option Message)
  | messages (messages : List Message)
  deriving DecidableEq, Repr, Inhabited

namespace QueueCall

/-- What a call does to a plain list. -/
def onList : QueueCall → List Message → QueueReply × List Message
  | enqueue message, pending => (.accepted, pending ++ [message])
  | dequeue, pending => (.message pending.head?, pending.tail)
  | peek, pending => (.message pending.head?, pending)
  | snapshot limit, pending => (.messages (pending.take limit), pending)

/-- What a call may fail with: the byte store fails, or a message is too large for a record. -/
def MayFailWith : QueueCall → StoreError → Prop
  | enqueue message, e =>
    (∃ cause, e = .storage cause) ∨
      Frame.maxPayload < message.toBytes.length ∧ ∃ len, e = .messageTooLarge len Frame.maxPayload
  | dequeue, e => ∃ cause, e = .storage cause
  | peek, _ | snapshot _, _ => False

/-- **An answer as on a plain list**; an error leaves the list as it was. -/
def Answers (call : QueueCall) (before after : List Message) : Except StoreError QueueReply → Prop
  | .ok reply => (reply, after) = call.onList before
  | .error e => after = before ∧ call.MayFailWith e

variable {σ ω : Type} [ByteStore σ ω]

/-- Makes a call. -/
def act : QueueCall → Queue.Action σ ω QueueReply
  | enqueue message => do
    Queue.enqueue message
    return .accepted
  | dequeue => do
    let given ← Queue.dequeue
    return .message given
  | peek => observe fun (queue, _) => queue.peek.map .message
  | snapshot limit => observe fun (queue, _) => (queue.snapshot limit).map .messages

/-- The queue and its world after a call, whatever came of it. -/
def next (call : QueueCall) (s : Queue σ × ω) : Queue σ × ω := (outcome call.act s).2

/-- The answer to a call. -/
def answer (call : QueueCall) (s : Queue σ × ω) : Except StoreError QueueReply :=
  (outcome call.act s).1

/-- Whether the log can be cut back if the append that the call makes fails. -/
def CutsBack (call : QueueCall) (s : Queue σ × ω) : Prop :=
  match call with
  | enqueue message => s.1.CutsBack s.2 .enqueue message.toBytes
  | dequeue =>
    ∀ head rest, s.1.pending = head :: rest →
      s.1.CutsBack s.2 .dequeue (QueueReplay.dequeuePayload head.id)
  | peek | snapshot _ => True

/-- The queue and its world after calls made one after another. -/
def run (calls : List QueueCall) (s : Queue σ × ω) : Queue σ × ω :=
  calls.foldl (fun s call => call.next s) s

/-- Whether the log can be cut back after every append that fails in a run. -/
def CutBackAlong : List QueueCall → Queue σ × ω → Prop
  | [], _ => True
  | call :: calls, s => call.CutsBack s ∧ CutBackAlong calls (call.next s)

end QueueCall

/-! ## What the calls fail with -/

namespace Queue

variable {σ ω : Type} [ByteStore σ ω] {queue queue' : Queue σ} {log : Log σ} {world world' : ω}
  {e : StoreError}

theorem enqueue_error_cause {message : Message} (hlog : queue.log = some log)
    (hrun : enqueue message (queue, world) = .error e (queue', world')) :
    (QueueCall.enqueue message).MayFailWith e := by
  rw [enqueue_eq hlog] at hrun
  split at hrun
  · rename_i e' hencode
    cases hrun
    unfold Message.encode at hencode
    split at hencode
    · rename_i hlong
      cases hencode
      refine .inr ⟨?_, _, rfl⟩
      rw [Message.length_toBytes]
      simp only [Message.maxPayload] at hlong
      simp only [Frame.maxPayload]
      omega
    · cases hencode
  · rename_i payload hencode
    obtain ⟨-, rfl⟩ := Message.encode_eq_ok_iff.1 hencode
    split at hrun
    · rename_i e' log' world₁ happend
      cases hrun
      rcases Log.append_error_cause happend with hcause | ⟨hlong, rfl⟩
      · exact .inl hcause
      · exact .inr ⟨hlong, _, rfl⟩
    · cases hrun

theorem dequeue_error_cause (hlog : queue.log = some log)
    (hrun : dequeue (queue, world) = .error e (queue', world')) : ∃ cause, e = .storage cause := by
  cases hcase : queue.pending with
  | nil =>
    rw [dequeue_of_nil hlog hcase] at hrun
    cases hrun
  | cons head rest =>
    rw [dequeue_of_cons hlog hcase] at hrun
    split at hrun
    · rename_i e' log' world₁ happend
      cases hrun
      rcases Log.append_error_cause happend with hcause | ⟨hlong, -⟩
      · exact hcause
      · rw [QueueReplay.length_dequeuePayload] at hlong
        simp only [Frame.maxPayload] at hlong
        omega
    · split at hrun
      · rename_i hfailed
        exact absurd hfailed (resetDrained_ne_error _ _ _)
      · cases hrun

/-- **A closed queue** refuses every call and stays as it is. -/
theorem outcome_act_of_isClosed (h : queue.isClosed = true) (world : ω) (call : QueueCall) :
    outcome call.act (queue, world) = (.error (.closed queueName), (queue, world)) := by
  cases call with
  | enqueue message =>
    simp only [outcome, QueueCall.act, bind, EStateM.bind, enqueue_of_isClosed h]
  | dequeue => simp only [outcome, QueueCall.act, bind, EStateM.bind, dequeue_of_isClosed h]
  | peek =>
    simp only [outcome, QueueCall.act, observe, peek, h, if_true]
    rfl
  | snapshot limit =>
    simp only [outcome, QueueCall.act, observe, snapshot, h, if_true]
    rfl

end Queue

/-! ## One call, and a run -/

namespace QueueCall

variable {σ ω : Type} [ByteStore σ ω] {C : ByteStore.Contract σ ω}

/-- **One call** keeps queue and log in agreement and answers as on a plain list. -/
theorem agrees_next {s : Queue σ × ω} (h : Queue.Agrees C s.1 s.2) (call : QueueCall)
    (hcut : call.CutsBack s) :
    Queue.Agrees C (call.next s).1 (call.next s).2 ∧
      call.Answers s.1.pending (call.next s).1.pending (call.answer s) := by
  obtain ⟨queue, world⟩ := s
  obtain ⟨log, hlog, -⟩ := id h
  change queue.log = some log at hlog
  have hopen : queue.isClosed = false := by rw [Queue.isClosed, hlog, Option.isNone_some]
  cases call with
  | enqueue message =>
    simp only [next, answer, outcome, act, bind, EStateM.bind]
    cases hrun : Queue.enqueue message (queue, world) with
    | ok a s' =>
      obtain ⟨hagrees, hpending⟩ := Queue.enqueue_ok h hrun
      exact ⟨hagrees, Prod.ext rfl hpending⟩
    | error e s' =>
      obtain ⟨hagrees, hpending⟩ := Queue.enqueue_error h hcut hrun
      exact ⟨hagrees, hpending, Queue.enqueue_error_cause hlog hrun⟩
  | dequeue =>
    simp only [next, answer, outcome, act, bind, EStateM.bind]
    cases hrun : Queue.dequeue (queue, world) with
    | ok given s' =>
      obtain ⟨hagrees, hgiven, hpending⟩ := Queue.dequeue_ok h hrun
      exact ⟨hagrees, Prod.ext (congrArg QueueReply.message hgiven) hpending⟩
    | error e s' =>
      obtain ⟨hagrees, hpending⟩ := Queue.dequeue_error h hcut hrun
      exact ⟨hagrees, hpending, Queue.dequeue_error_cause hlog hrun⟩
  | peek =>
    simp only [next, answer, outcome, act, observe, Queue.peek, hopen]
    exact ⟨h, rfl⟩
  | snapshot limit =>
    simp only [next, answer, outcome, act, observe, Queue.snapshot, hopen]
    exact ⟨h, rfl⟩

theorem cutBackAlong_append {calls more : List QueueCall} {s : Queue σ × ω} :
    CutBackAlong (calls ++ more) s ↔ CutBackAlong calls s ∧ CutBackAlong more (run calls s) := by
  induction calls generalizing s with
  | nil => simp [CutBackAlong, run]
  | cons call calls ih =>
    simp only [List.cons_append, CutBackAlong, run, List.foldl_cons]
    rw [ih, and_assoc]
    rfl

theorem agrees_run {s : Queue σ × ω} (h : Queue.Agrees C s.1 s.2) {calls : List QueueCall}
    (hcut : CutBackAlong calls s) : Queue.Agrees C (run calls s).1 (run calls s).2 := by
  induction calls generalizing s with
  | nil => exact h
  | cons call calls ih => exact ih (agrees_next h call hcut.1).1 hcut.2

end QueueCall

/-! ## Bytes in memory -/

/-- Whether the record that a call appends, if any, is not too large. -/
def QueueCall.Fits : QueueCall → Prop
  | enqueue message => message.toBytes.length ≤ Frame.maxPayload
  | _ => True

theorem QueueCall.answer_ok {queue : Queue MemoryStore} {log : Log MemoryStore}
    (hlog : queue.log = some log) {call : QueueCall} (hfits : call.Fits)
    (hplan : ¬ log.store.FailsToWrite log.syncOnWrite) :
    ∃ reply, call.answer (queue, ()) = .ok reply := by
  have hopen : queue.isClosed = false := by rw [Queue.isClosed, hlog, Option.isNone_some]
  cases call with
  | enqueue message =>
    have hlen : message.payload.length ≤ Message.maxPayload := by
      have hlen := Message.length_toBytes message
      simp only [Fits, Frame.maxPayload] at hfits
      simp only [Message.maxPayload]
      omega
    obtain ⟨offset, s, happend⟩ := Log.append_succeeds .enqueue hfits hplan
    simp only [answer, outcome, act, bind, EStateM.bind, Queue.enqueue_eq hlog,
      Message.encode_eq_ok_iff.2 ⟨hlen, rfl⟩, happend]
    exact ⟨_, rfl⟩
  | dequeue =>
    simp only [answer, outcome, act, bind, EStateM.bind]
    cases hcase : queue.pending with
    | nil =>
      rw [Queue.dequeue_of_nil hlog hcase]
      exact ⟨_, rfl⟩
    | cons head rest =>
      have hlen : (QueueReplay.dequeuePayload head.id).length ≤ Frame.maxPayload := by
        rw [QueueReplay.length_dequeuePayload]
        decide
      obtain ⟨offset, ⟨log', world'⟩, happend⟩ := Log.append_succeeds .dequeue hlen hplan
      rw [Queue.dequeue_of_cons hlog hcase, happend]
      dsimp only
      cases hreset : Queue.resetDrained
          (({ queue with log := some log', pending := rest } : Queue MemoryStore), world') with
      | ok a s' => exact ⟨_, rfl⟩
      | error e s' => exact absurd hreset (Queue.resetDrained_ne_error _ _ _)
  | peek =>
    simp only [answer, outcome, act, observe, Queue.peek, hopen]
    exact ⟨_, rfl⟩
  | snapshot limit =>
    simp only [answer, outcome, act, observe, Queue.snapshot, hopen]
    exact ⟨_, rfl⟩

/-- **A queue over bytes in memory** agrees with its log after any calls, and the next call answers as
on a plain list, whatever appends, syncs and truncations the plan lets fail, unless it is a
truncation that cuts the log back after a failed append. A call fails only if its write does or its
record is too large. -/
theorem fifo_of_attach {options : StoreOptions} {store : MemoryStore} {queue : Queue MemoryStore}
    {s : MemoryStore × Unit} (hopen : Queue.attach options (store, ()) = .ok queue s)
    (calls : List QueueCall) (call : QueueCall)
    (hcut : QueueCall.CutBackAlong (calls ++ [call]) (queue, ())) :
    let before := QueueCall.run calls (queue, ())
    let after := call.next before
    Queue.Agrees MemoryStore.contract before.1 before.2 ∧
      Queue.Agrees MemoryStore.contract after.1 after.2 ∧
      call.Answers before.1.pending after.1.pending (call.answer before) ∧
      ∀ log, before.1.log = some log → call.Fits →
        ¬ log.store.FailsToWrite log.syncOnWrite → ∃ reply, call.answer before = .ok reply := by
  intro before after
  obtain ⟨hcalls, hcall, -⟩ := QueueCall.cutBackAlong_append.1 hcut
  have hheld : MemoryStore.contract.Holds store () store.bytes := rfl
  have hstart := Queue.agrees_attach hheld hopen
  have hbefore := QueueCall.agrees_run hstart hcalls
  obtain ⟨hafter, hanswers⟩ := QueueCall.agrees_next hbefore call hcall
  exact ⟨hbefore, hafter, hanswers, fun log hlog => QueueCall.answer_ok hlog⟩

/-- An empty store that fails at its second append, after five bytes. -/
def failingSecondAppend : MemoryStore :=
  { plan := { append := fun n => if n = 2 then some 5 else none } }

/-- A dequeue that is written in part only fails, and the message stays pending. -/
theorem fifo_of_attach_failingSecondAppend :
    let s := QueueCall.run [.enqueue ⟨⟨7⟩, [1, 2]⟩]
      (⟨none, some ⟨failingSecondAppend, queueFormat, true⟩, []⟩, ())
    QueueCall.dequeue.answer s = .error (.storage (MemoryStore.injected "append" 2)) ∧
      Queue.Agrees MemoryStore.contract (QueueCall.dequeue.next s).1 () ∧
      (QueueCall.dequeue.next s).1.pending = [⟨⟨7⟩, [1, 2]⟩] := by
  intro s
  have hopen : Queue.attach {} (failingSecondAppend, ()) =
      .ok ⟨none, some ⟨failingSecondAppend, queueFormat, true⟩, []⟩ (failingSecondAppend, ()) := by
    rw [Queue.attach_eq, Log.recover_of_whole (MemoryStore.readAll_eq _ ()) (scan_nil queueFormat) rfl]
    rfl
  obtain ⟨-, hafter, hanswers, -⟩ := fifo_of_attach hopen [.enqueue ⟨⟨7⟩, [1, 2]⟩] .dequeue (by
    refine ⟨?_, ?_, trivial⟩
    · intro log hlog frame _
      cases hlog
      exact (Log.rollsBack_iff_of_memory _ _).2 fun _ => rfl
    · intro head rest _ log hlog frame _
      cases hlog
      exact (Log.rollsBack_iff_of_memory _ _).2 fun _ => rfl)
  have hanswer : QueueCall.dequeue.answer s =
      .error (.storage (MemoryStore.injected "append" 2)) := rfl
  rw [hanswer] at hanswers
  exact ⟨hanswer, hafter, hanswers.1⟩

end Replica
