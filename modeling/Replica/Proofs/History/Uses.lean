/-
What is read from a history over any use of it.

A use is a push, a close or a reopen over the same bytes. Appends, flushes and syncs
may fail at any call; only cutting the log back never does (`FaultPlan.cutting`). Then
memory and bytes hold the messages whose push was acknowledged, oldest first
(`Archive.Holds`): one use adds at most one to both or leaves both alone
(`Archive.Holds.next`), and by induction any run of them. So a reader answers as that
plain list does, and what was recorded stays where it is (`write_once`).
-/
import Replica.Proofs.History.Survival

namespace Replica

/-- The same faults, but cutting the end off never fails. -/
def FaultPlan.cutting (plan : FaultPlan) : FaultPlan := { plan with truncate := fun _ => false }

/-- What is done with a history over bytes in memory. -/
inductive HistoryUse
  | push (message : Message)
  | close
  /-- Opens the bytes anew, with other options and other faults to come. -/
  | reopen (options : StoreOptions) (plan : FaultPlan)

/-- A history and the bytes it is kept in, which stay when it is closed. -/
structure Archive where
  history : History MemoryStore
  image : Bytes

namespace Archive

/-- An archive with its history after an action on it, over the bytes that the action left. -/
def follow (archive : Archive) (history : History MemoryStore) : Archive :=
  ⟨history, match history.log with | some log => log.store.bytes | none => archive.image⟩

/-- Closes the history. What its log made durable last is what stays. -/
def close (archive : Archive) : Archive :=
  ⟨(outcome History.close (archive.history, ())).2.1,
    match archive.history.log with
    | some log => (outcome Log.sync (log, ())).2.1.store.bytes
    | none => archive.image⟩

/-- Opens the bytes anew. A history that does not open is closed. -/
def reopen (options : StoreOptions) (plan : FaultPlan) (archive : Archive) : Archive :=
  match History.attach options ({ bytes := archive.image, plan := plan.cutting }, ()) with
  | .ok history (store, _) => ⟨history, store.bytes⟩
  | .error _ (store, _) => ⟨{ archive.history with log := none }, store.bytes⟩

end Archive

namespace HistoryUse

/-- The archive after a use, whatever came of it. -/
def next (use : HistoryUse) (archive : Archive) : Archive :=
  match use with
  | push message => archive.follow (archive.history.pushed message)
  | close => archive.close
  | reopen options plan => archive.reopen options plan

/-- What a use records: the message of a push that is acknowledged. -/
def recorded (use : HistoryUse) (archive : Archive) : List Message :=
  match use with
  | push message => if archive.history.acknowledges message then [message] else []
  | close | reopen .. => []

/-- Whether the history is closed after a use, by whether it was before. -/
def closes (wasClosed : Bool) : HistoryUse → Bool
  | push _ => wasClosed
  | close => true
  | reopen .. => false

/-- The archive after uses made one after another. -/
def run (uses : List HistoryUse) (archive : Archive) : Archive :=
  uses.foldl (fun archive use => use.next archive) archive

/-- The messages whose push is acknowledged in a run, oldest first. -/
def acknowledged : List HistoryUse → Archive → List Message
  | [], _ => []
  | use :: uses, archive => use.recorded archive ++ acknowledged uses (use.next archive)

end HistoryUse

namespace Archive

variable {archive : Archive} {entries : List Message}

/-- **What an archive holds**: its bytes say the entries, and so does its history; an open one is open
on these bytes, and its log can always be cut back. -/
structure Holds (archive : Archive) (entries : List Message) : Prop where
  recalls : Recalls archive.image entries
  stack : archive.history.stack.reverse = entries
  opened (h : archive.history.isClosed = false) : ∃ log plan,
    archive.history = .ofEntries log entries ∧ log.format = historyFormat ∧
      log.store.bytes = archive.image ∧ log.store.plan = FaultPlan.cutting plan

theorem Holds.agrees {log : Log MemoryStore} {plan : FaultPlan} (h : archive.Holds entries)
    (hhistory : archive.history = .ofEntries log entries) (hformat : log.format = historyFormat)
    (hbytes : log.store.bytes = archive.image) (hplan : log.store.plan = plan) :
    archive.history.Agrees (MemoryStore.contractUnder plan) () entries :=
  ⟨log, archive.image, hhistory, hformat, ⟨hbytes, hplan⟩, h.recalls⟩

theorem holds_of_agrees {plan : FaultPlan} {history : History MemoryStore}
    (h : history.Agrees (MemoryStore.contractUnder plan.cutting) () entries) :
    (archive.follow history).Holds entries := by
  obtain ⟨log, image, rfl, hformat, ⟨rfl, hplan⟩, hrecalls⟩ := h
  exact ⟨hrecalls, by simp [follow, History.ofEntries], fun _ => ⟨log, plan, rfl, hformat, rfl, hplan⟩⟩

theorem rollsBack_of_cutting {plan : FaultPlan} {history : History MemoryStore}
    (h : history.Agrees (MemoryStore.contractUnder plan.cutting) () entries) {log : Log MemoryStore}
    (hlog : history.log = some log) (frame : Bytes) : log.RollsBack () frame := by
  obtain ⟨log', image, rfl, -, ⟨-, hplan⟩, -⟩ := h
  cases hlog
  refine (Log.rollsBack_iff_of_memory _ _).2 fun _ => ?_
  rw [hplan]
  rfl

/-! ## One use -/

theorem agrees_pushed {plan : FaultPlan} {history : History MemoryStore}
    (h : history.Agrees (MemoryStore.contractUnder plan.cutting) () entries) (message : Message) :
    (history.pushed message).Agrees (MemoryStore.contractUnder plan.cutting) ()
      (entries ++ if history.acknowledges message then [message] else []) := by
  cases hrun : History.push message (history, ()) with
  | ok a s =>
    have hpushed : history.pushed message = s.1 := by rw [History.pushed, outcome, hrun]
    have hok : history.acknowledges message = true := by
      rw [History.acknowledges, outcome, hrun]
      rfl
    rw [hpushed, hok, if_pos rfl]
    exact History.push_ok h hrun
  | error e s =>
    have hpushed : history.pushed message = s.1 := by rw [History.pushed, outcome, hrun]
    have hfailed : history.acknowledges message = false := by
      rw [History.acknowledges, outcome, hrun]
      rfl
    rw [hpushed, hfailed, if_neg Bool.false_ne_true, List.append_nil]
    exact History.push_error h (fun log hlog frame _ => rollsBack_of_cutting h hlog frame) hrun

/-- **A push** adds its message, if it is acknowledged. -/
theorem Holds.push (h : archive.Holds entries) (message : Message) :
    ((HistoryUse.push message).next archive).Holds
        (entries ++ (HistoryUse.push message).recorded archive) ∧
      ((HistoryUse.push message).next archive).history.isClosed = archive.history.isClosed := by
  simp only [HistoryUse.next, HistoryUse.recorded]
  cases hclosed : archive.history.isClosed with
  | true =>
    have hlog : archive.history.log = none := Option.isNone_iff_eq_none.1 hclosed
    have hrun := History.push_of_isClosed hclosed message ()
    have hpushed : archive.history.pushed message = archive.history := by
      rw [History.pushed, outcome, hrun]
    have hfailed : archive.history.acknowledges message = false := by
      rw [History.acknowledges, outcome, hrun]
      rfl
    have hsame : archive.follow archive.history = archive := by rw [follow, hlog]
    rw [hpushed, hfailed, hsame, if_neg Bool.false_ne_true, List.append_nil]
    exact ⟨h, hclosed⟩
  | false =>
    obtain ⟨log, plan, hhistory, hformat, hbytes, hplan⟩ := h.opened hclosed
    have hnext := agrees_pushed (h.agrees hhistory hformat hbytes hplan) message
    refine ⟨holds_of_agrees hnext, ?_⟩
    obtain ⟨log', image, hhistory', -⟩ := hnext
    show (archive.history.pushed message).isClosed = false
    rw [hhistory']
    rfl

theorem bytes_sync (log : Log MemoryStore) :
    (outcome Log.sync (log, ())).2.1.store.bytes = log.store.bytes := by
  simp only [outcome, Log.sync, bind, EStateM.bind, Log.onStore_eq, MemoryStore.flush_eq]
  cases log.store.plan.flush (log.store.counts.flush + 1) with
  | true => rfl
  | false =>
    simp only [Bool.false_eq_true, if_false, Log.onStore_eq, MemoryStore.sync_eq]
    cases log.store.plan.sync (log.store.counts.sync + 1) <;> rfl

/-- **A close** leaves the bytes as they are. -/
theorem Holds.close (h : archive.Holds entries) :
    archive.close.Holds entries ∧ archive.close.history.isClosed = true := by
  rw [Archive.close]
  cases hlog : archive.history.log with
  | none =>
    have hclosed : archive.history.isClosed = true := by rw [History.isClosed, hlog]; rfl
    rw [outcome, History.close_of_isClosed hclosed]
    exact ⟨h, hclosed⟩
  | some log =>
    have hopen : archive.history.isClosed = false := by rw [History.isClosed, hlog]; rfl
    obtain ⟨log', plan, hhistory, -, hbytes, -⟩ := h.opened hopen
    have hsame : log' = log := by
      rw [hhistory] at hlog
      exact Option.some.inj hlog
    dsimp only
    rw [History.close_leaves, bytes_sync, ← hsame, hbytes]
    exact ⟨⟨h.recalls, h.stack, fun hopen => by cases hopen⟩, rfl⟩

/-- **A reopen** gives back what the bytes say. -/
theorem Holds.reopen (h : archive.Holds entries) (options : StoreOptions) (plan : FaultPlan) :
    (archive.reopen options plan).Holds entries ∧
      (archive.reopen options plan).history.isClosed = false := by
  have hheld : (MemoryStore.contractUnder plan.cutting).Holds
      { bytes := archive.image, plan := plan.cutting } () archive.image := ⟨rfl, rfl⟩
  rw [Archive.reopen, History.attach_of_recalls hheld h.recalls]
  exact ⟨⟨h.recalls, by simp [History.ofEntries], fun _ => ⟨_, plan, rfl, rfl, rfl, rfl⟩⟩, rfl⟩

/-- **One use** adds what it records, to the history and to the bytes. -/
theorem Holds.next (h : archive.Holds entries) (use : HistoryUse) :
    (use.next archive).Holds (entries ++ use.recorded archive) ∧
      (use.next archive).history.isClosed = HistoryUse.closes archive.history.isClosed use := by
  cases use with
  | push message => exact h.push message
  | close =>
    rw [HistoryUse.recorded, List.append_nil]
    exact h.close
  | reopen options plan =>
    rw [HistoryUse.recorded, List.append_nil]
    exact h.reopen options plan

/-- **A whole run** adds what it acknowledges, to the history and to the bytes. -/
theorem Holds.run (h : archive.Holds entries) (uses : List HistoryUse) :
    (HistoryUse.run uses archive).Holds (entries ++ HistoryUse.acknowledged uses archive) ∧
      (HistoryUse.run uses archive).history.isClosed =
        uses.foldl HistoryUse.closes archive.history.isClosed := by
  induction uses generalizing archive entries with
  | nil =>
    rw [HistoryUse.acknowledged, List.append_nil]
    exact ⟨h, rfl⟩
  | cons use uses ih =>
    obtain ⟨hnext, hclosed⟩ := h.next use
    rw [HistoryUse.acknowledged, ← List.append_assoc, List.foldl_cons, ← hclosed]
    exact ih hnext

/-! ## What is read -/

theorem Holds.reader_eq (h : archive.Holds entries) :
    archive.history.reader =
      if archive.history.isClosed then .error (.closed historyName) else .ok (.ofList entries) := by
  cases hclosed : archive.history.isClosed with
  | true =>
    rw [History.reader, hclosed]
    rfl
  | false =>
    obtain ⟨log, plan, hhistory, -⟩ := h.opened hclosed
    rw [hhistory, History.reader_ofEntries]
    rfl

theorem acknowledges_of_fits {history : History MemoryStore} {log : Log MemoryStore}
    (hlog : history.log = some log) {message : Message}
    (hfits : message.toBytes.length ≤ Frame.maxPayload)
    (hplan : ¬ log.store.FailsToWrite log.syncOnWrite) : history.acknowledges message = true := by
  have hlen : message.payload.length ≤ Message.maxPayload := by
    have hlen := Message.length_toBytes message
    simp only [Frame.maxPayload] at hfits
    simp only [Message.maxPayload]
    omega
  obtain ⟨offset, s, happend⟩ := Log.append_succeeds .push hfits hplan
  rw [History.acknowledges, outcome, History.push_eq hlog, Message.encode_eq_ok_iff.2 ⟨hlen, rfl⟩]
  dsimp only
  rw [happend]
  rfl

end Archive

/-- **A history is a list that is written once.** Over no bytes it opens, and behind any uses, whatever
appends, flushes and syncs fail, it is open or closed as its last close or reopen left it. Memory and
bytes hold the messages whose push was acknowledged, oldest first; a reader of the open history is
that of the plain list. Whatever is done next, these messages stay where they are, and what is
acknowledged then comes behind them. A push fails only if its write does or its record is too
large. -/
theorem History.write_once (plan : FaultPlan) (options : StoreOptions) (uses more : List HistoryUse) :
    ∃ history s, attach options (emptyStore plan.cutting, ()) = .ok history s ∧
      let start : Archive := ⟨history, s.1.bytes⟩
      let before := HistoryUse.run uses start
      let after := HistoryUse.run more before
      let entries := HistoryUse.acknowledged uses start
      before.history.isClosed = uses.foldl HistoryUse.closes false ∧
        before.history.reader =
          (if before.history.isClosed then .error (.closed historyName)
            else .ok (.ofList entries)) ∧
        before.history.stack.reverse = entries ∧ Recalls before.image entries ∧
        after.history.stack.reverse = entries ++ HistoryUse.acknowledged more before ∧
        Recalls after.image (entries ++ HistoryUse.acknowledged more before) ∧
        ∀ log, before.history.log = some log → ∀ message,
          message.toBytes.length ≤ Frame.maxPayload →
            ¬ log.store.FailsToWrite log.syncOnWrite → before.history.acknowledges message = true := by
  refine ⟨_, _, attach_emptyStore plan.cutting options, ?_⟩
  intro start before after entries
  have hstart : start.Holds [] :=
    ⟨.nil, rfl, fun _ => ⟨_, plan, rfl, rfl, rfl, rfl⟩⟩
  obtain ⟨hbefore, hclosed⟩ := hstart.run uses
  obtain ⟨hafter, -⟩ := hbefore.run more
  rw [List.nil_append] at hbefore hafter
  exact ⟨hclosed, hbefore.reader_eq, hbefore.stack, hbefore.recalls, hafter.stack, hafter.recalls,
    fun log hlog message => Archive.acknowledges_of_fits hlog⟩

end Replica
