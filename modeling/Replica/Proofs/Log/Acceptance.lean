/-
Runs of a log over a byte store that fails now and then.

A run is any list of appends and resets, each made where the one before it left
off. `Accepted` keeps the account of what the log has taken on: the bytes it
started from, unless they were dropped, and the records whose appends went through.
The store may fail at any call; the only failure excluded is that of cutting the log
back after a failed append (`CutBackAlong`). Then the bytes are those of the account
at every moment (`accounts_run`), however many appends failed and wherever they broke
off.
-/
import Replica.Proofs.Log.Cut
import Replica.Proofs.Log.Memory

namespace Replica

/-! ## The account -/

/-- A call of a log that changes it. -/
inductive LogCall
  | append (kind : RecordKind) (payload : Bytes)
  | reset
  deriving DecidableEq, Repr, Inhabited

/-- **What a log has taken on**: the bytes it started from, and the records that were appended to
them, at the offsets the appends returned. -/
structure Accepted where
  base : Bytes
  records : List LogRecord
  deriving DecidableEq, Repr, Inhabited

namespace Accepted

/-- What was appended. -/
def entries (accepted : Accepted) : List (RecordKind × Bytes) :=
  accepted.records.map fun record => (record.kind, record.payload)

/-- The bytes that the account comes to. -/
def image (accepted : Accepted) (magic : Magic) : Bytes :=
  accepted.base ++ (framesOf magic accepted.entries).flatten

end Accepted

namespace LogCall

/-- What a call that was answered so does to the account. -/
def enter : LogCall → Except StoreError Nat → Accepted → Accepted
  | append kind payload, .ok offset, accepted =>
    { accepted with records := accepted.records ++ [⟨offset, kind, payload⟩] }
  | reset, .ok _, _ => ⟨[], []⟩
  | _, .error _, accepted => accepted

variable {σ ω : Type} [ByteStore σ ω]

/-- Makes a call. It answers with the offset from which on the log is another. -/
def act : LogCall → Log.Action σ ω Nat
  | append kind payload => Log.append kind payload
  | reset => do
    Log.reset
    return 0

/-- The log and its world after a call, whatever came of it. -/
def next (call : LogCall) (s : Log σ × ω) : Log σ × ω := (outcome call.act s).2

/-- The answer to a call. -/
def answer (call : LogCall) (s : Log σ × ω) : Except StoreError Nat := (outcome call.act s).1

/-- Whether the log can be cut back if the append that the call makes fails. -/
def CutsBack (call : LogCall) (s : Log σ × ω) : Prop :=
  match call with
  | append kind payload =>
    ∀ frame, Frame.encode s.1.format.magic kind payload = .ok frame → s.1.RollsBack s.2 frame
  | reset => True

/-- The log and its world after calls made one after another. -/
def run (calls : List LogCall) (s : Log σ × ω) : Log σ × ω :=
  calls.foldl (fun s call => call.next s) s

/-- The account after calls made one after another. -/
def acceptedAlong : List LogCall → Log σ × ω → Accepted → Accepted
  | [], _, accepted => accepted
  | call :: calls, s, accepted =>
    acceptedAlong calls (call.next s) (call.enter (call.answer s) accepted)

/-- Whether the log can be cut back after every append that fails in a run. -/
def CutBackAlong : List LogCall → Log σ × ω → Prop
  | [], _ => True
  | call :: calls, s => call.CutsBack s ∧ CutBackAlong calls (call.next s)

/-! ## One call, and a run -/

/-- The store holds the bytes of the account, and the records stand where their appends said. -/
structure Accounts (C : ByteStore.Contract σ ω) (format : LogFormat) (s : Log σ × ω)
    (accepted : Accepted) : Prop where
  format_eq : s.1.format = format
  held : C.Holds s.1.store s.2 (accepted.image format.magic)
  offsets : accepted.records = recordsFrom accepted.base.length accepted.entries

variable {C : ByteStore.Contract σ ω} {format : LogFormat} {s : Log σ × ω} {accepted : Accepted}

/-- **One call** keeps the store in agreement with the account, whatever came of it. -/
theorem accounts_next (h : Accounts C format s accepted) (call : LogCall) (hcut : call.CutsBack s) :
    Accounts C format (call.next s) (call.enter (call.answer s) accepted) := by
  obtain ⟨log, world⟩ := s
  obtain ⟨rfl, hheld, hoffsets⟩ := h
  cases call with
  | append kind payload =>
    simp only [next, answer, outcome, act]
    cases hrun : Log.append kind payload (log, world) with
    | ok offset s' =>
      obtain ⟨log', world'⟩ := s'
      obtain ⟨-, hoffset, store', rfl, hheld'⟩ := Log.append_ok hheld hrun
      have hentries : Accepted.entries
          { accepted with records := accepted.records ++ [⟨offset, kind, payload⟩] } =
            accepted.entries ++ [(kind, payload)] := List.map_append
      refine ⟨rfl, ?_, ?_⟩
      · simp only [enter, Accepted.image, hentries] at hheld' ⊢
        simpa [framesOf] using hheld'
      · simp only [enter]
        rw [hentries, recordsFrom_append log.format.magic, ← hoffsets, hoffset, Accepted.image,
          List.length_append]
        rfl
    | error e s' =>
      obtain ⟨log', world'⟩ := s'
      obtain ⟨store', rfl, hheld'⟩ := Log.append_error hheld hcut hrun
      exact ⟨rfl, hheld', hoffsets⟩
  | reset =>
    simp only [next, answer, outcome, act, bind, EStateM.bind]
    cases hrun : Log.reset (log, world) with
    | ok a s' =>
      obtain ⟨log', world'⟩ := s'
      obtain ⟨store', rfl, hheld'⟩ := Log.reset_ok hheld hrun
      exact ⟨rfl, hheld', rfl⟩
    | error e s' =>
      obtain ⟨log', world'⟩ := s'
      obtain ⟨store', rfl, hheld'⟩ := Log.reset_error hheld hrun
      exact ⟨rfl, hheld', hoffsets⟩

/-- **A whole run** keeps the store in agreement with the account. -/
theorem accounts_run (h : Accounts C format s accepted) {calls : List LogCall}
    (hcut : CutBackAlong calls s) :
    Accounts C format (run calls s) (acceptedAlong calls s accepted) := by
  induction calls generalizing s accepted with
  | nil => exact h
  | cons call calls ih => exact ih (accounts_next h call hcut.1) hcut.2

end LogCall

/-! ## Bytes in memory -/

/-- **A log over bytes in memory holds what it has taken on and nothing else**: the intact bytes it
was opened with, unless a reset dropped them, and behind them the frames of the appends that went
through since, each at the offset that was returned. It does so whatever appends, syncs and resets
the plan lets fail, and however much of a frame is written before an append fails. -/
theorem log_holds_accepted {format : LogFormat} {store store' : MemoryStore}
    {records : List LogRecord}
    (hopen : Log.recover format (store, ()) = .ok records (store', ())) (syncOnWrite : Bool) :
    ∃ found, scan format store.bytes = .ok found ∧ found.records = records ∧
      ∀ calls : List LogCall, LogCall.CutBackAlong calls (⟨store', format, syncOnWrite⟩, ()) →
        let log := (LogCall.run calls (⟨store', format, syncOnWrite⟩, ())).1
        let accepted := LogCall.acceptedAlong calls (⟨store', format, syncOnWrite⟩, ())
          ⟨store.bytes.take found.validLength, []⟩
        log.store.bytes = accepted.image format.magic ∧
          accepted.records = recordsFrom accepted.base.length accepted.entries ∧
          log.size () = log.store.bytes.length ∧
          ∀ (call : LogCall) (e : StoreError), call.CutsBack (log, ()) →
            call.answer (log, ()) = .error e →
              (call.next (log, ())).1.store.bytes = log.store.bytes := by
  have hheld : MemoryStore.contract.Holds store () store.bytes := rfl
  obtain ⟨found, hscan, hrecords, hheld', -⟩ := Log.recover_ok hheld hopen
  refine ⟨found, hscan, hrecords, fun calls hcut => ?_⟩
  have hstart : LogCall.Accounts MemoryStore.contract format (⟨store', format, syncOnWrite⟩, ())
      ⟨store.bytes.take found.validLength, []⟩ := by
    refine ⟨rfl, ?_, rfl⟩
    simpa [Accepted.image, Accepted.entries, framesOf] using hheld'
  have hafter := LogCall.accounts_run hstart hcut
  refine ⟨hafter.held, hafter.offsets, rfl, fun call e hcall herror => ?_⟩
  have hnext := LogCall.accounts_next hafter call hcall
  have hsame : call.enter (.error e) = id := by cases call <;> rfl
  have hanswer : call.answer (LogCall.run calls (⟨store', format, syncOnWrite⟩, ())) = .error e :=
    herror
  rw [hanswer, hsame] at hnext
  exact hnext.held.trans hafter.held.symm

/-- An empty store whose second append breaks off after five bytes and whose second sync fails. -/
def failingTwice : MemoryStore :=
  { plan := { append := fun n => if n = 2 then some 5 else none, sync := fun n => n = 2 } }

/-- Of three appends the second breaks off and the third is written but not made durable: the first
is what the log holds. -/
theorem log_holds_accepted_failingTwice :
    (LogCall.run [.append .push [1], .append .push [2], .append .push [3]]
        (⟨failingTwice, ⟨⟨0x54, 0x4c, 0x4f, 0x47⟩, "test"⟩, true⟩, ())).1.store.bytes =
      Frame.toBytes ⟨0x54, 0x4c, 0x4f, 0x47⟩ .push [1] := by
  have hopen : Log.recover ⟨⟨0x54, 0x4c, 0x4f, 0x47⟩, "test"⟩ (failingTwice, ()) =
      .ok [] (failingTwice, ()) := by
    rw [Log.recover_of_whole (MemoryStore.readAll_eq _ ()) (scan_nil _) rfl]
  have hcut (kind : RecordKind) (payload : Bytes) (log : Log MemoryStore)
      (hplan : log.store.plan.truncate (log.store.counts.truncate + 1) = false) :
      (LogCall.append kind payload).CutsBack (log, ()) :=
    fun frame _ => (Log.rollsBack_iff_of_memory log frame).2 fun _ => hplan
  obtain ⟨found, -, -, hrun⟩ := log_holds_accepted hopen true
  obtain ⟨hbytes, -⟩ := hrun [.append .push [1], .append .push [2], .append .push [3]]
    ⟨hcut _ _ _ rfl, hcut _ _ _ rfl, hcut _ _ _ rfl, trivial⟩
  rw [hbytes]
  have haccepted : LogCall.acceptedAlong [.append .push [1], .append .push [2], .append .push [3]]
      (⟨failingTwice, ⟨⟨0x54, 0x4c, 0x4f, 0x47⟩, "test"⟩, true⟩, ())
      ⟨failingTwice.bytes.take found.validLength, []⟩ = ⟨[], [⟨0, .push, [1]⟩]⟩ := by
    rw [show failingTwice.bytes = [] from rfl, List.take_nil]
    rfl
  rw [haccepted]
  simp [Accepted.image, Accepted.entries, framesOf]

end Replica
