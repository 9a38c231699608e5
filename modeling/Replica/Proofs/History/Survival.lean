/-
What is left of a history whose byte store fails now and then.

A push that fails may leave leading bytes of its record in the log, and if
cutting the log back fails too they stay. As long as no push writes behind such
a torn record (`WritesBehindNone`), the bytes open again to every message that
was acknowledged, in the order of the pushes (`acknowledged_survive`). Where no
truncation fails that is every run (`writesBehindNone_of_truncate`). Behind a
torn record a push is acknowledged and lost (`acknowledged_behind_torn`).
-/
import Replica.Proofs.History
import Replica.Proofs.Log.Memory

namespace Replica

open Scan

/-! ## What bytes open to -/

/-- **What bytes open to**: their intact records hold the entries, and there may be a torn one
behind them. -/
def OpensTo (image : Bytes) (entries : List Message) : Prop :=
  ∃ found, scan historyFormat image = .ok found ∧ replayHistory found.records = .ok entries

/-- Whether the bytes are intact records only. -/
def IsWhole (image : Bytes) : Prop :=
  ∃ found, scan historyFormat image = .ok found ∧ found.tornTail = none

section

variable {image : Bytes} {entries : List Message} {message : Message}

theorem Recalls.opensTo (h : Recalls image entries) : OpensTo image entries := by
  obtain ⟨found, hscan, -, hreplay⟩ := h
  exact ⟨found, hscan, hreplay⟩

theorem Recalls.isWhole (h : Recalls image entries) : IsWhole image := by
  obtain ⟨found, hscan, hwhole, -⟩ := h
  exact ⟨found, hscan, hwhole⟩

theorem OpensTo.recalls (h : OpensTo image entries) (hwhole : IsWhole image) :
    Recalls image entries := by
  obtain ⟨found, hscan, hreplay⟩ := h
  obtain ⟨found', hscan', hnone⟩ := hwhole
  have hsame : found = found' := by
    rw [hscan] at hscan'
    exact Except.ok.inj hscan'
  exact ⟨found, hscan, by rw [hsame, hnone], hreplay⟩

/-- Leading bytes of one more record are one more entry if they are all of it, and none if not. -/
theorem Recalls.opensTo_part (h : Recalls image entries)
    (hmessage : message.payload.length ≤ Message.maxPayload)
    (hfits : message.toBytes.length ≤ Frame.maxPayload) (n : Nat) :
    ∃ more, more.Sublist [message] ∧
      OpensTo (image ++ (Frame.toBytes historyFormat.magic .push message.toBytes).take n)
        (entries ++ more) := by
  by_cases hpart : n < Frame.length message.toBytes.length
  · obtain ⟨found, hscan, hwhole, hreplay⟩ := h
    obtain ⟨found', hfound, hrecords⟩ :=
      @scan_append_part historyFormat image found hscan hwhole .push message.toBytes hfits n hpart
    exact ⟨[], List.nil_sublist _, found', hfound, by rw [List.append_nil, hrecords, hreplay]⟩
  · have hall : (Frame.toBytes historyFormat.magic .push message.toBytes).take n =
        Frame.toBytes historyFormat.magic .push message.toBytes := by
      refine List.take_of_length_le ?_
      rw [Frame.length_toBytes]
      omega
    rw [hall]
    exact ⟨[message], List.Sublist.refl _, (h.push hmessage hfits).opensTo⟩

end

namespace History

/-- A store without bytes, and a plan of what fails. -/
def emptyStore (plan : FaultPlan) : MemoryStore := { plan }

/-- **Bytes that open** do so on a store that does not fail, whatever is torn at their end. -/
theorem attach_of_opensTo {image : Bytes} {entries : List Message} (h : OpensTo image entries)
    (options : StoreOptions) :
    ∃ history s, attach options (MemoryStore.ofBytes image, ()) = .ok history s ∧
      history.stack = entries.reverse := by
  obtain ⟨found, hscan, hreplay⟩ := h
  obtain ⟨store, hrecover⟩ := Log.recover_ofBytes hscan
  rw [attach_eq, hrecover]
  dsimp only
  rw [hreplay]
  exact ⟨_, _, rfl, rfl⟩

theorem attach_emptyStore (plan : FaultPlan) (options : StoreOptions) :
    attach options (emptyStore plan, ()) =
      .ok (ofEntries ⟨emptyStore plan, historyFormat, options.syncOnWrite⟩ [])
        (emptyStore plan, ()) :=
  attach_of_recalls (show MemoryStore.contract.Holds (emptyStore plan) () [] from rfl) .nil

/-! ## Pushes -/

/-- The bytes below a history; none once it is closed. -/
def image (history : History MemoryStore) : Bytes :=
  match history.log with
  | some log => log.store.bytes
  | none => []

/-- Whether a push is acknowledged. -/
def acknowledges (message : Message) (history : History MemoryStore) : Bool :=
  (outcome (push message) (history, ())).1.isOk

/-- The history after a push, acknowledged or not. -/
def pushed (message : Message) (history : History MemoryStore) : History MemoryStore :=
  (outcome (push message) (history, ())).2.1

/-- The history after pushes made one after another. -/
def pushAll (messages : List Message) (history : History MemoryStore) : History MemoryStore :=
  messages.foldl (fun history message => pushed message history) history

/-- The messages whose pushes are acknowledged, in the order of the pushes. -/
def acknowledged : List Message → History MemoryStore → List Message
  | [], _ => []
  | message :: messages, history =>
    if acknowledges message history then message :: acknowledged messages (pushed message history)
    else acknowledged messages (pushed message history)

/-- **No push writes behind a torn record**: each finds the log whole or leaves its bytes alone. -/
def WritesBehindNone : List Message → History MemoryStore → Prop
  | [], _ => True
  | message :: messages, history =>
    (IsWhole history.image ∨ (pushed message history).image = history.image) ∧
      WritesBehindNone messages (pushed message history)

/-- A history is open on a log whose bytes open to these entries. -/
def Leaves (history : History MemoryStore) (entries : List Message) : Prop :=
  ∃ log, history.log = some log ∧ log.format = historyFormat ∧ OpensTo log.store.bytes entries

theorem push_cases {history : History MemoryStore} {log : Log MemoryStore}
    (hlog : history.log = some log) (hformat : log.format = historyFormat) (message : Message) :
    ∃ log', (pushed message history).log = some log' ∧ log'.format = historyFormat ∧
      (acknowledges message history = false ∧ log'.store.bytes = log.store.bytes ∨
        message.payload.length ≤ Message.maxPayload ∧
        message.toBytes.length ≤ Frame.maxPayload ∧
        ∃ n, log'.store.bytes = log.store.bytes ++
            (Frame.toBytes historyFormat.magic .push message.toBytes).take n ∧
          (acknowledges message history = true →
            n = (Frame.toBytes historyFormat.magic .push message.toBytes).length)) := by
  have hheld : MemoryStore.contract.Holds log.store () log.store.bytes := rfl
  simp only [pushed, acknowledges, outcome]
  rw [push_eq hlog]
  cases hencode : message.encode with
  | error e => exact ⟨log, hlog, hformat, .inl ⟨rfl, rfl⟩⟩
  | ok payload =>
    obtain ⟨hmessage, rfl⟩ := Message.encode_eq_ok_iff.1 hencode
    dsimp only
    cases happend : Log.append .push message.toBytes (log, ()) with
    | ok offset s =>
      obtain ⟨log', world'⟩ := s
      obtain ⟨hfits, -, store', hlog', hheld'⟩ := Log.append_ok hheld happend
      rw [hformat] at hheld'
      refine ⟨log', rfl, by rw [hlog']; exact hformat, .inr ⟨hmessage, hfits, _, ?_, fun _ => rfl⟩⟩
      rw [hlog', List.take_length]
      exact hheld'
    | error e s =>
      obtain ⟨log', world'⟩ := s
      obtain ⟨store', hlog', hbytes⟩ := Log.append_error_part hheld happend
      refine ⟨log', rfl, by rw [hlog']; exact hformat, ?_⟩
      rcases hbytes with hsame | ⟨hfits, n, hpart⟩
      · exact .inl ⟨rfl, by rw [hlog']; exact hsame⟩
      · rw [hformat] at hpart
        refine .inr ⟨hmessage, hfits, n, by rw [hlog']; exact hpart, ?_⟩
        intro hok
        cases hok

/-- **One push** that does not write behind a torn record keeps what the bytes open to. It may keep a
message that it did not acknowledge, and it keeps one that it did. -/
theorem Leaves.pushed {history : History MemoryStore} {entries : List Message} {message : Message}
    (h : history.Leaves entries)
    (hclear : IsWhole history.image ∨ (pushed message history).image = history.image) :
    ∃ more, (History.pushed message history).Leaves (entries ++ more) ∧ more.Sublist [message] ∧
      (acknowledges message history = true → more = [message]) := by
  obtain ⟨log, hlog, hformat, hopens⟩ := h
  obtain ⟨log', hlog', hformat', hbytes⟩ := push_cases hlog hformat message
  have himage : history.image = log.store.bytes := by rw [image, hlog]
  have himage' : (History.pushed message history).image = log'.store.bytes := by rw [image, hlog']
  rw [himage, himage'] at hclear
  rcases hbytes with ⟨hfailed, hsame⟩ | ⟨hmessage, hfits, n, hpart, hall⟩
  · refine ⟨[], ⟨log', hlog', hformat', ?_⟩, List.nil_sublist _, ?_⟩
    · rw [hsame, List.append_nil]
      exact hopens
    · rw [hfailed]
      intro hok
      cases hok
  · rcases hclear with hwhole | hsame
    · have hrecalls := hopens.recalls hwhole
      by_cases hok : acknowledges message history = true
      · refine ⟨[message], ⟨log', hlog', hformat', ?_⟩, List.Sublist.refl _, fun _ => rfl⟩
        rw [hpart, hall hok, List.take_length]
        exact (hrecalls.push hmessage hfits).opensTo
      · obtain ⟨more, hmore, hopens'⟩ := hrecalls.opensTo_part hmessage hfits n
        rw [← hpart] at hopens'
        exact ⟨more, ⟨log', hlog', hformat', hopens'⟩, hmore, fun h => absurd h hok⟩
    · -- A push that leaves the bytes alone wrote no frame, so it was not acknowledged.
      have hnone : (Frame.toBytes historyFormat.magic .push message.toBytes).take n = [] := by
        rw [hpart] at hsame
        exact List.append_right_eq_self.1 hsame
      refine ⟨[], ⟨log', hlog', hformat', ?_⟩, List.nil_sublist _, fun hok => ?_⟩
      · rw [hsame, List.append_nil]
        exact hopens
      · rw [hall hok, List.take_length] at hnone
        have hlen := congrArg List.length hnone
        simp only [Frame.length_toBytes, Frame.length, Frame.headerLength, List.length_nil] at hlen
        omega

/-- **A run of pushes**, by induction: what it acknowledges is among what the bytes open to behind
the entries that were there before, and nothing is there that was not pushed. -/
theorem Leaves.pushAll {messages : List Message} {history : History MemoryStore}
    {entries : List Message} (h : history.Leaves entries)
    (hclear : WritesBehindNone messages history) :
    ∃ kept, (History.pushAll messages history).Leaves (entries ++ kept) ∧
      (acknowledged messages history).Sublist kept ∧ kept.Sublist messages := by
  induction messages generalizing history entries with
  | nil => exact ⟨[], by rw [List.append_nil]; exact h, List.Sublist.refl _, List.Sublist.refl _⟩
  | cons message messages ih =>
    obtain ⟨hfirst, hrest⟩ := hclear
    obtain ⟨more, hmore, hpart, hall⟩ := h.pushed hfirst
    obtain ⟨kept, hkept, hamong, hpushed⟩ := ih hmore hrest
    rw [List.append_assoc] at hkept
    refine ⟨more ++ kept, hkept, ?_, hpart.append hpushed⟩
    rw [acknowledged]
    split
    · rename_i hok
      rw [hall hok]
      exact hamong.cons_cons message
    · exact hamong.trans (List.sublist_append_right more kept)

theorem writesBehindNone_of_agrees {plan : FaultPlan} (hplan : ∀ n, plan.truncate n = false)
    {history : History MemoryStore} {entries : List Message}
    (h : history.Agrees (MemoryStore.contractUnder plan) () entries) (messages : List Message) :
    WritesBehindNone messages history := by
  induction messages generalizing history entries with
  | nil => trivial
  | cons message messages ih =>
    have hwhole : IsWhole history.image := by
      obtain ⟨log, image, rfl, hformat, ⟨hheld, -⟩, hrecalls⟩ := h
      have himage : (ofEntries log entries).image = image := hheld
      rw [himage]
      exact hrecalls.isWhole
    refine ⟨.inl hwhole, ?_⟩
    have hcut : ∀ log, history.log = some log → ∀ frame,
        Frame.encode log.format.magic .push message.toBytes = .ok frame →
          log.RollsBack () frame := by
      intro log hlog frame _
      obtain ⟨log', image, rfl, -, ⟨-, hunder⟩, -⟩ := h
      cases hlog
      refine (Log.rollsBack_iff_of_memory _ _).2 fun _ => ?_
      rw [hunder]
      exact hplan _
    cases hrun : push message (history, ()) with
    | ok a s =>
      have hnext := push_ok h hrun
      have hpushed : pushed message history = s.1 := by rw [pushed, outcome, hrun]
      rw [hpushed]
      exact ih hnext
    | error e s =>
      have hnext := push_error h hcut hrun
      have hpushed : pushed message history = s.1 := by rw [pushed, outcome, hrun]
      rw [hpushed]
      exact ih hnext

/-- **Where no truncation fails** no push writes behind a torn record. -/
theorem writesBehindNone_of_truncate (plan : FaultPlan) (options : StoreOptions)
    (hplan : ∀ n, plan.truncate n = false) (messages : List Message) :
    WritesBehindNone messages
      (ofEntries ⟨emptyStore plan, historyFormat, options.syncOnWrite⟩ []) := by
  have hagrees : (ofEntries ⟨emptyStore plan, historyFormat, options.syncOnWrite⟩ []).Agrees
      (MemoryStore.contractUnder plan) () [] :=
    ⟨⟨emptyStore plan, historyFormat, options.syncOnWrite⟩, [], rfl, rfl, ⟨rfl, rfl⟩, .nil⟩
  exact writesBehindNone_of_agrees hplan hagrees messages

/-- **An acknowledged push survives** whatever appends, syncs and truncations fail, as long as no push
writes behind a torn record: the bytes open again, to every message that was acknowledged, in the
order of the pushes, and to no message that was not pushed. -/
theorem acknowledged_survive (plan : FaultPlan) (options options' : StoreOptions)
    (messages : List Message) :
    ∃ history s, attach options (emptyStore plan, ()) = .ok history s ∧
      (WritesBehindNone messages history →
        ∃ reopened s',
          attach options' (MemoryStore.ofBytes (pushAll messages history).image, ()) =
            .ok reopened s' ∧
          (acknowledged messages history).Sublist reopened.stack.reverse ∧
          reopened.stack.reverse.Sublist messages) := by
  refine ⟨_, _, attach_emptyStore plan options, fun hclear => ?_⟩
  have hstart : (ofEntries ⟨emptyStore plan, historyFormat, options.syncOnWrite⟩ []).Leaves
      [] := ⟨_, rfl, rfl, Recalls.nil.opensTo⟩
  obtain ⟨kept, ⟨log, hlog, -, hopens⟩, hamong, hpushed⟩ := hstart.pushAll hclear
  rw [List.nil_append] at hopens
  obtain ⟨reopened, s', hrun, hstack⟩ := attach_of_opensTo hopens options'
  have himage : (pushAll messages (ofEntries
      ⟨emptyStore plan, historyFormat, options.syncOnWrite⟩ [])).image = log.store.bytes := by
    rw [image, hlog]
  rw [himage]
  refine ⟨reopened, s', hrun, ?_⟩
  rw [hstack, List.reverse_reverse]
  exact ⟨hamong, hpushed⟩

/-- An empty store that fails at its second append, after five bytes. -/
def failsAtSecond : FaultPlan := { append := fun n => if n = 2 then some 5 else none }

/-- The message whose push fails is the only one that is lost. -/
theorem acknowledged_survive_failsAtSecond :
    ∃ history s, attach {} (emptyStore failsAtSecond, ()) = .ok history s ∧
      acknowledged [⟨⟨1⟩, []⟩, ⟨⟨2⟩, []⟩, ⟨⟨3⟩, []⟩] history = [⟨⟨1⟩, []⟩, ⟨⟨3⟩, []⟩] ∧
      ∃ reopened s',
        attach {} (MemoryStore.ofBytes
          (pushAll [⟨⟨1⟩, []⟩, ⟨⟨2⟩, []⟩, ⟨⟨3⟩, []⟩] history).image, ()) = .ok reopened s' ∧
        [⟨⟨1⟩, []⟩, ⟨⟨3⟩, []⟩].Sublist reopened.stack.reverse := by
  obtain ⟨history, s, hopen, hsurvive⟩ := acknowledged_survive failsAtSecond {} {}
    [⟨⟨1⟩, []⟩, ⟨⟨2⟩, []⟩, ⟨⟨3⟩, []⟩]
  have hopened := hopen
  rw [attach_emptyStore] at hopened
  cases hopened
  have hacknowledged : acknowledged [⟨⟨1⟩, []⟩, ⟨⟨2⟩, []⟩, ⟨⟨3⟩, []⟩]
      (ofEntries ⟨emptyStore failsAtSecond, historyFormat, true⟩ []) =
        [⟨⟨1⟩, []⟩, ⟨⟨3⟩, []⟩] := by
    rfl
  obtain ⟨reopened, s', hrun, hamong, -⟩ :=
    hsurvive (writesBehindNone_of_truncate failsAtSecond {} (fun _ => rfl) _)
  refine ⟨_, _, hopen, hacknowledged, reopened, s', hrun, ?_⟩
  rw [← hacknowledged]
  exact hamong

/-- An empty store whose first append fails after five bytes, which it cannot cut off. -/
def leavesFive : FaultPlan where
  append n := if n = 1 then some 5 else none
  truncate n := n = 1

/-- Five bytes of one record and a whole one behind them. -/
def behindFive : Bytes :=
  (Frame.toBytes historyFormat.magic .push (Message.toBytes ⟨⟨1⟩, []⟩)).take 5 ++
    Frame.toBytes historyFormat.magic .push (Message.toBytes ⟨⟨2⟩, []⟩)

/-- Behind five bytes of a failed push a push is acknowledged, and the log does not open any more. -/
theorem acknowledged_behind_torn :
    ∃ history s, attach {} (emptyStore leavesFive, ()) = .ok history s ∧
      acknowledged [⟨⟨1⟩, []⟩, ⟨⟨2⟩, []⟩] history = [⟨⟨2⟩, []⟩] ∧
      ∃ s', attach {} (MemoryStore.ofBytes (pushAll [⟨⟨1⟩, []⟩, ⟨⟨2⟩, []⟩] history).image, ()) =
        .error (.corrupted historyName (.unsupportedVersion 0x4301 0)) s' := by
  have himage : (pushAll [⟨⟨1⟩, []⟩, ⟨⟨2⟩, []⟩]
      (ofEntries ⟨emptyStore leavesFive, historyFormat, true⟩ [])).image = behindFive := rfl
  have hfront : front historyFormat 0 behindFive =
      .damaged (.corrupted historyName (.unsupportedVersion 0x4301 0)) := by decide
  have hscan : scan historyFormat behindFive =
      .error (.corrupted historyName (.unsupportedVersion 0x4301 0)) := by
    rw [scan, scanFrom_eq, if_neg (by decide), hfront]
  refine ⟨_, _, attach_emptyStore leavesFive {}, rfl, (MemoryStore.ofBytes behindFive, ()), ?_⟩
  rw [himage, attach_eq, Log.recover_of_scan_error (MemoryStore.readAll_eq _ ()) hscan]

end History
end Replica
