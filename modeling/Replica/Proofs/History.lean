/-
The history in memory and the log below it.

`History.Agrees` ties both to the list of entries, oldest first. Opening a history
establishes it, and a push adds one entry to all three or, if it fails, to none.
-/
import Replica.History
import Replica.Proofs.Queue

namespace Replica

open Scan

/-! ## What a history log says -/

/-- **What a history log says**: its bytes are intact records, and these hold the entries. -/
def Recalls (image : Bytes) (entries : List Message) : Prop :=
  ∃ found, scan historyFormat image = .ok found ∧ found.tornTail = none ∧
    replayHistory found.records = .ok entries

namespace Recalls

variable {image : Bytes} {entries : List Message} {message : Message}

theorem nil : Recalls [] [] := ⟨_, scan_nil historyFormat, rfl, rfl⟩

theorem push (h : Recalls image entries) (hmessage : message.payload.length ≤ Message.maxPayload)
    (hfits : message.toBytes.length ≤ Frame.maxPayload) :
    Recalls (image ++ Frame.toBytes historyFormat.magic .push message.toBytes)
      (entries ++ [message]) := by
  obtain ⟨found, hscan, hwhole, hreplay⟩ := h
  have hwalk := scanFrom_eq_ok_iff.1 hscan
  have hframe :=
    (@walk_toBytes historyFormat image.length .push message.toBytes hfits).scanFrom_eq_ok
  refine ⟨⟨found.records ++ [⟨image.length, .push, message.toBytes⟩],
    image.length + Frame.length message.toBytes.length, none⟩, ?_, rfl, ?_⟩
  · rw [scan, hwalk.scanFrom_append hwhole, Nat.zero_add, hframe]
    rfl
  · have hentry : historyEntry ⟨image.length, .push, message.toBytes⟩ = .ok message :=
      Message.decode_toBytes historyName hmessage
    rw [replayHistory] at hreplay ⊢
    simp only [List.mapM_append, hreplay, List.mapM_cons, hentry, List.mapM_nil]
    rfl

end Recalls

namespace History

variable {σ ω : Type} [ByteStore σ ω]

/-! ## The calls, written out -/

theorem push_eq {history : History σ} {log : Log σ} (hlog : history.log = some log)
    (message : Message) (world : ω) :
    push message (history, world) =
      match message.encode with
      | .error e => .error e (history, world)
      | .ok payload =>
        match Log.append .push payload (log, world) with
        | .error e (log', world') => .error e ({ history with log := some log' }, world')
        | .ok _ (log', world') =>
          .ok () ({ history with
            log := some log'
            stack := message :: history.stack
            depth := history.depth + 1
            ids := history.ids.insert message.id }, world') := by
  simp only [push, bind, EStateM.bind, record, hlog]
  cases message.encode with
  | error e => rfl
  | ok payload =>
    dsimp only
    cases Log.append .push payload (log, world) <;> rfl

theorem push_of_isClosed {history : History σ} (h : history.isClosed = true) (message : Message)
    (world : ω) : push message (history, world) = .error (.closed historyName) (history, world) := by
  have hlog : history.log = none := Option.isNone_iff_eq_none.1 h
  simp only [push, bind, EStateM.bind, record, hlog]

theorem close_of_isClosed {history : History σ} (h : history.isClosed = true) (world : ω) :
    close (history, world) = .ok () (history, world) := by
  have hlog : history.log = none := Option.isNone_iff_eq_none.1 h
  simp only [close, hlog]

/-- A close lets the log go and nothing else, whatever comes of it. -/
theorem close_leaves (history : History σ) (world : ω) :
    (outcome close (history, world)).2.1 = { history with log := none } := by
  obtain ⟨log, stack, depth, ids⟩ := history
  cases log with
  | none => rfl
  | some log =>
    simp only [outcome, close]
    cases Log.sync (log, world) <;> rfl

theorem isClosed_close (history : History σ) (world : ω) :
    (outcome close (history, world)).2.1.isClosed = true := by
  rw [close_leaves]
  rfl

theorem length_close (history : History σ) (world : ω) :
    (outcome close (history, world)).2.1.length = history.length := by
  rw [close_leaves]
  rfl

theorem attach_eq (options : StoreOptions) (s : σ × ω) :
    attach options s =
      match Log.recover historyFormat s with
      | .error e s' => .error e s'
      | .ok records s' =>
        match replayHistory records with
        | .error e => .error e s'
        | .ok entries => .ok (ofEntries ⟨s'.1, historyFormat, options.syncOnWrite⟩ entries) s' := by
  simp only [attach, bind, EStateM.bind]
  cases Log.recover historyFormat s with
  | error e s' => rfl
  | ok records s' =>
    dsimp only
    cases replayHistory records <;> rfl

theorem ofEntries_append (log log' : Log σ) (entries : List Message) (message : Message) :
    ofEntries log' (entries ++ [message]) =
      { ofEntries log entries with
        log := some log'
        stack := message :: (ofEntries log entries).stack
        depth := (ofEntries log entries).depth + 1
        ids := (ofEntries log entries).ids.insert message.id } := by
  simp [ofEntries, List.foldl_append]

/-! ## The reader -/

theorem contains_foldl_insert (entries : List Message) (ids : Std.HashSet MessageId) (id : MessageId) :
    (entries.foldl (fun ids message => ids.insert message.id) ids).contains id =
      (ids.contains id || entries.any (·.id = id)) := by
  induction entries generalizing ids with
  | nil => simp
  | cons message entries ih =>
    rw [List.foldl_cons, ih, Std.HashSet.contains_insert, List.any_cons]
    cases ids.contains id <;> simp [BEq.beq]

omit [ByteStore σ ω] in
/-- **A history answers its reader** as a plain list of its entries does. -/
theorem reader_ofEntries (log : Log σ) (entries : List Message) :
    (ofEntries log entries).reader = .ok (.ofList entries) := by
  have hat : (fun offset => entries.reverse[offset]?) = HistoryReader.fromEnd entries := by
    funext offset
    rw [HistoryReader.fromEnd]
    split
    · rename_i hlt
      rw [List.getElem?_reverse hlt]
      congr 1
      omega
    · rw [List.getElem?_eq_none]
      rw [List.length_reverse]
      omega
  have hcontains : (ofEntries log entries).ids.contains = fun id => entries.any (·.id = id) := by
    funext id
    rw [ofEntries, contains_foldl_insert]
    simp
  rw [reader, HistoryReader.ofList, hcontains, ← hat]
  rfl

/-! ## History and log in agreement -/

/-- **History and log agree**: both hold these entries, oldest first. -/
def Agrees (C : ByteStore.Contract σ ω) (history : History σ) (world : ω) (entries : List Message) :
    Prop :=
  ∃ log image, history = ofEntries log entries ∧ log.format = historyFormat ∧
    C.Holds log.store world image ∧ Recalls image entries

section Contract

variable {C : ByteStore.Contract σ ω} {history history' : History σ} {world world' : ω}
  {entries : List Message} {message : Message} {e : StoreError}

theorem agrees_attach {options : StoreOptions} {store store' : σ} {image : Bytes}
    (h : C.Holds store world image)
    (hrun : attach options (store, world) = .ok history (store', world')) :
    ∃ entries, Agrees C history world' entries := by
  rw [attach_eq] at hrun
  split at hrun
  · cases hrun
  · rename_i records s hrecover
    obtain ⟨store₁, world₁⟩ := s
    obtain ⟨found, -, rfl, hheld, hwalk⟩ := Log.recover_ok h hrecover
    split at hrun
    · cases hrun
    · rename_i entries hreplay
      cases hrun
      exact ⟨entries, _, _, rfl, rfl, hheld, _, hwalk.scanFrom_eq_ok, rfl, hreplay⟩

theorem attach_of_recalls {options : StoreOptions} {store : σ} {image : Bytes}
    (h : C.Holds store world image) (hrecalls : Recalls image entries) :
    attach options (store, world) =
      .ok (ofEntries ⟨store, historyFormat, options.syncOnWrite⟩ entries) (store, world) := by
  obtain ⟨found, hscan, hwhole, hreplay⟩ := hrecalls
  rw [attach_eq, Log.recover_of_whole (C.readAll h) hscan hwhole]
  dsimp only
  rw [hreplay]

theorem push_ok {a : Unit} (h : Agrees C history world entries)
    (hrun : push message (history, world) = .ok a (history', world')) :
    Agrees C history' world' (entries ++ [message]) := by
  obtain ⟨log, image, rfl, hformat, hheld, hrecalls⟩ := h
  rw [push_eq rfl] at hrun
  split at hrun
  · cases hrun
  · rename_i payload hencode
    obtain ⟨hmessage, rfl⟩ := Message.encode_eq_ok_iff.1 hencode
    split at hrun
    · cases hrun
    · rename_i log₁ world₁ happend
      obtain ⟨hfits, -, store₁, rfl, hheld'⟩ := Log.append_ok hheld happend
      rw [hformat] at hheld'
      cases hrun
      exact ⟨_, _, (ofEntries_append log _ entries message).symm, hformat, hheld',
        hrecalls.push hmessage hfits⟩

theorem push_error (h : Agrees C history world entries)
    (hcut : ∀ log, history.log = some log → ∀ frame,
      Frame.encode log.format.magic .push message.toBytes = .ok frame → log.RollsBack world frame)
    (hrun : push message (history, world) = .error e (history', world')) :
    Agrees C history' world' entries := by
  obtain ⟨log, image, rfl, hformat, hheld, hrecalls⟩ := h
  rw [push_eq rfl] at hrun
  split at hrun
  · cases hrun
    exact ⟨log, image, rfl, hformat, hheld, hrecalls⟩
  · rename_i payload hencode
    obtain ⟨-, rfl⟩ := Message.encode_eq_ok_iff.1 hencode
    split at hrun
    · rename_i e' log₁ world₁ happend
      cases hrun
      obtain ⟨store₁, rfl, hheld'⟩ := Log.append_error hheld (hcut log rfl) happend
      exact ⟨_, image, rfl, hformat, hheld', hrecalls⟩
    · cases hrun

end Contract

end History

end Replica
