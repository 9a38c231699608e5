/-
What the inspections list of a directory, and what its stores hold.

Every listing is read off three things: what the queue log replays to, the entries of the
history, and the snapshot (`Inspection.Reads`). Stores that are opened hold the same three
(`FileStores.openIn_inv`), and the files they leave give them back, with no torn record
left. So the inspections show what the stores hold, before the stores are opened and
after they have been closed (`inspection_shows_stores`).
-/
import Mathlib.Control.Monad.Basic
import Replica.Inspection.Listing
import Replica.Proofs.Coordinator.Says
import Replica.Proofs.Inspection.Verdict

namespace Replica

open FileSystem DataDirectory

variable {disk disk' : FileSystem} {path : String} {here : Place}

/-! ## Listings -/

namespace ListedMessage

/-- Messages as they are listed: numbered from zero, each with its whole length. -/
def listing (messages : List Message) : List ListedMessage :=
  messages.mapIdx fun i m => ⟨i, m.id, m.payload.length, Replica.preview m.payload⟩

theorem number_eq_mapIdx (messages : List Message) (position : Nat) :
    number position messages = messages.mapIdx fun i m =>
      ⟨position + i, m.id, m.payload.length, Replica.preview m.payload⟩ := by
  induction messages generalizing position with
  | nil => rfl
  | cons message rest ih =>
    rw [number, ih, List.mapIdx_cons]
    simp only [Nat.add_assoc, Nat.add_comm 1, Nat.add_zero]

theorem number_zero (messages : List Message) : number 0 messages = listing messages := by
  rw [number_eq_mapIdx, listing]
  simp only [Nat.zero_add]

theorem select_some (messages : List Message) (limit : Nat) :
    select messages (some limit) = listing (messages.take limit) := number_zero _

theorem select_none (messages : List Message) : select messages none = listing messages :=
  number_zero _

end ListedMessage

/-! ## What is read of a directory -/

section Reading

variable {found found' : Scan} {replay : QueueReplay} {entries : List Message} {snapshot : Snapshot}
  {limit : Option Nat}

/-- **All three files of a directory can be read.** -/
structure Inspection.Reads (disk : FileSystem) (path : String) (queue : Scan × QueueReplay)
    (history : Scan × List Message) (snapshot : Snapshot) : Prop where
  stores : requireStores disk path = .ok ()
  queue : readQueue disk path = .ok (some queue)
  history : readHistory disk path = .ok (some history)
  state : readState disk path = .ok (some snapshot)

namespace Inspection.Reads

variable (h : Reads disk path (found, replay) (found', entries) snapshot)
include h

theorem summary : ∃ summary, Summary.collect disk path = .ok summary ∧
    summary.pending = replay.pending.toList.length ∧ summary.history = entries.length ∧
    summary.snapshot = some snapshot ∧
    (found.tornTail = none → found'.tornTail = none → summary.tornTails = []) := by
  simp only [Summary.collect, h.stores, h.queue, h.history, h.state, bind, Except.bind, pure,
    Except.pure]
  refine ⟨_, rfl, (Fifo.length_toList _).symm, rfl, rfl, fun hwhole hwhole' => ?_⟩
  simp only [Option.bind_some, hwhole, hwhole']
  rfl

theorem listsQueue : ListedMessage.ofQueue disk path limit =
    .ok (ListedMessage.select replay.pending.toList limit) := by
  simp only [ListedMessage.ofQueue, h.stores, h.queue, bind, Except.bind, pure, Except.pure]

theorem listsHistory : ListedMessage.ofHistory disk path limit =
    .ok (ListedMessage.select entries.reverse limit) := by
  simp only [ListedMessage.ofHistory, h.stores, h.history, bind, Except.bind, pure, Except.pure]

end Inspection.Reads

/-- **Three files that are there and can be read.** -/
theorem DataDirectory.Files.reads {queue history state : Bytes}
    (h : Files disk path here queue history state) (hqueue : disk.HasFile here queueFile queue)
    (hhistory : disk.HasFile here historyFile history) (hstate : disk.HasFile here stateFile state)
    (hread : readImage queueFormat replayQueue queue = .ok (found, replay))
    (hread' : readImage historyFormat replayHistory history = .ok (found', entries))
    (hdecode : Snapshot.decode state = .ok snapshot) :
    Inspection.Reads disk path (found, replay) (found', entries) snapshot where
  stores := requireStores_ok (.inl (h.queue.exists_of_file hqueue))
  queue := by rw [(looks_readQueue h.queue).file hqueue, hread]
  history := by rw [(looks_readHistory h.history).file hhistory, hread']
  state := by
    rw [readState_of_file h.state hstate, hdecode]
    rfl

end Reading

/-! ## Inspections and stores -/

section Stores

variable {stores : FileStores} {found found' : Scan} {replay : QueueReplay}
  {pending entries : List Message} {snapshot : Snapshot} {threshold : Nat}

/-- **The inspections of a directory show what stores hold**: the lengths of the queue and the
history, the snapshot, the first pending messages and the latest entries. -/
structure Inspection.Shows (disk : FileSystem) (path : String) (stores : FileStores) : Prop where
  summary : ∃ summary snapshot, Summary.collect disk path = .ok summary ∧
    summary.pending = stores.queue.length ∧ summary.history = stores.history.length ∧
    stores.state.current = .ok snapshot ∧ summary.snapshot = some snapshot
  queue (limit : Nat) : ∃ messages, stores.queue.snapshot limit = .ok messages ∧
    ListedMessage.ofQueue disk path (some limit) = .ok (ListedMessage.listing messages)
  history (limit : Nat) : ∃ reader, stores.history.reader = .ok reader ∧
    ListedMessage.ofHistory disk path (some limit) =
      .ok (ListedMessage.listing (reader.recent.take limit))
  wholeQueue : ListedMessage.ofQueue disk path none =
    .ok (ListedMessage.listing stores.queue.pending)
  wholeHistory : ∃ reader, stores.history.reader = .ok reader ∧
    ListedMessage.ofHistory disk path none = .ok (ListedMessage.listing reader.recent)

theorem Inspection.Reads.shows
    (h : Inspection.Reads disk path (found, replay) (found', entries) snapshot)
    (hopened : stores.Opened path here threshold replay.pending.toList entries snapshot) :
    Inspection.Shows disk path stores := by
  have hqueue : stores.queue.isClosed = false := hopened.inDirectory.queue.isClosed
  have hreader : stores.history.reader = .ok (.ofList entries) := hopened.inDirectory.reader_eq
  obtain ⟨n, -, log, image, hlog, -⟩ := hopened.inDirectory.history
  obtain ⟨summary, hcollect, hpending, hhistory, hsnapshot, -⟩ := h.summary
  refine ⟨⟨summary, snapshot, hcollect, ?_, ?_, ?_, hsnapshot⟩, fun limit => ?_, fun limit => ?_, ?_,
    ⟨_, hreader, ?_⟩⟩
  · rw [hpending, Queue.length, hopened.pendingEq]
  · rw [hhistory, hlog]
    rfl
  · rw [StateStore.current, hopened.inDirectory.state.isOpen, hopened.snapshotEq]
    rfl
  · refine ⟨_, by rw [Queue.snapshot, hqueue]; rfl, ?_⟩
    rw [h.listsQueue, ListedMessage.select_some, hopened.pendingEq]
  · refine ⟨_, hreader, ?_⟩
    rw [h.listsHistory, ListedMessage.select_some]
    rfl
  · rw [h.listsQueue, ListedMessage.select_none, hopened.pendingEq]
  · rw [h.listsHistory, ListedMessage.select_none]
    rfl

theorem decode_of_file {state : Bytes} {missing : Prop} (hfile : disk.HasFile here stateFile state)
    (hsaid : disk.entry? (here ++ [stateFile]) = none ∧ missing ∨
      disk.HasFile here stateFile state ∧ Snapshot.decode state = .ok snapshot) :
    Snapshot.decode state = .ok snapshot := by
  rcases hsaid with ⟨hnew, -⟩ | ⟨-, hdecode⟩
  · obtain ⟨n, hentry, -⟩ := hfile
    rw [hentry] at hnew
    cases hnew
  · exact hdecode

/-- **What the inspections show of a directory is what its stores hold**, and a restart does not change
it. Let the three store files be there, and let each store open by itself. Then the stores open
together, and the inspections show what they hold, before they were opened and after they have been
closed again. No torn record is left then. -/
theorem inspection_shows_stores (htidy : ∀ here, disk.Leads path.toList here → disk.Tidy here)
    (hdir : disk.isDirectory path = true)
    (hqueue : ∃ n, disk.lookup (queuePath path) = .ok (.file n))
    (hhistory : ∃ n, disk.lookup (historyPath path) = .ok (.file n))
    (hstate : ∃ n, disk.lookup (statePath path) = .ok (.file n)) {options : StoreOptions} {fold : Fold}
    (hopens : ∃ queue disk', Queue.openFile (queuePath path) options disk = .ok queue disk')
    (hopens' : ∃ history disk', History.openFile (historyPath path) options disk = .ok history disk')
    (hopens'' : ∃ state disk', StateStore.openFile (statePath path) fold disk = .ok state disk')
    (lock : Entry) :
    ∃ stores, FileStores.openIn ⟨path, lock⟩ options fold disk = .ok stores stores.disk ∧
      let closed := MessageStores.closeState (MessageStores.closeHistory
        (MessageStores.closeQueue stores))
      Inspection.Shows disk path stores ∧ Inspection.Shows closed.disk path stores ∧
      ∃ before after, Summary.collect disk path = .ok before ∧
        Summary.collect closed.disk path = .ok after ∧
        after.pending = before.pending ∧ after.history = before.history ∧
        after.snapshot = before.snapshot ∧ after.tornTails = [] ∧
        ∀ limit,
          ListedMessage.ofQueue closed.disk path limit = ListedMessage.ofQueue disk path limit ∧
          ListedMessage.ofHistory closed.disk path limit =
            ListedMessage.ofHistory disk path limit := by
  obtain ⟨here, image, image', image'', hfiles⟩ :=
    files_of_ordinary htidy hdir (.inr hqueue) (.inr hhistory) (.inr hstate)
  have hthere := hfiles.queue.hasFile hqueue
  have hthere' := hfiles.history.hasFile hhistory
  have hthere'' := hfiles.state.hasFile hstate
  obtain ⟨opened, disk₁, hopen⟩ := hopens
  obtain ⟨opened', disk₂, hopen'⟩ := hopens'
  obtain ⟨opened'', disk₃, hopen''⟩ := hopens''
  obtain ⟨_, _, hentries, -⟩ := History.openFile_inv hfiles.history hopen'
  obtain ⟨_, -, hsaid⟩ := StateStore.openFile_inv hfiles.state hopen''
  obtain ⟨stores, disk', hrun⟩ := FileStores.openIn_of_openQueue hfiles hopen hentries hthere''
    (decode_of_file hthere'' hsaid) (StateStore.not_blocked_of_openFile hfiles.state hopen'')
  obtain ⟨rfl, found, replay, found', entries, snapshot, hread, hread', hsaid', hopened⟩ :=
    FileStores.openIn_inv hfiles hrun
  have hdecode := decode_of_file hthere'' hsaid'
  have hbefore := hfiles.reads hthere hthere' hthere'' hread hread' hdecode
  obtain ⟨_, _, _, found₂, replay₂, found₂', hfiles₂, hleft, hleft', hleft'', hread₂, hwhole, hpending,
    -, hread₂', hwhole', hdecode₂⟩ :=
    hopened.files hfiles.fits hfiles.queue.fits hfiles.history.fits
  have hafter := hfiles₂.reads hleft hleft' hleft'' hread₂ hread₂' hdecode₂
  obtain ⟨before, hcollect, hcount, hcount', hsnapshot, -⟩ := hbefore.summary
  obtain ⟨after, hcollect', hcount₂, hcount₂', hsnapshot₂, htails⟩ := hafter.summary
  refine ⟨stores, hrun, ?_⟩
  dsimp only
  rw [hopened.inDirectory.disk_close]
  refine ⟨hbefore.shows hopened, hafter.shows (by rwa [hpending]), before, after, hcollect, hcollect',
    ?_, ?_, ?_, htails hwhole hwhole', fun limit => ⟨?_, ?_⟩⟩
  · rw [hcount₂, hcount, hpending]
  · rw [hcount₂', hcount']
  · rw [hsnapshot₂, hsnapshot]
  · rw [hafter.listsQueue, hbefore.listsQueue, hpending]
  · rw [hafter.listsHistory, hbefore.listsHistory]

/-! ## A restart that cleans up -/

/-- A directory in which both logs end in a torn record, and one of the two messages in the queue log
has been given out. -/
def tornStores : FileSystem where
  names := ⟨[(["data"], .directory), (["data", queueFile], .file 0), (["data", historyFile], .file 1),
    (["data", stateFile], .file 2)]⟩
  contents := ⟨[
    (0, Frame.toBytes queueFormat.magic .enqueue (Message.toBytes ⟨⟨7⟩, [1]⟩) ++
      Frame.toBytes queueFormat.magic .enqueue (Message.toBytes ⟨⟨8⟩, []⟩) ++
      Frame.toBytes queueFormat.magic .dequeue (QueueReplay.dequeuePayload ⟨7⟩) ++ [67, 83, 89]),
    (1, Frame.toBytes historyFormat.magic .push (Message.toBytes ⟨⟨7⟩, [1]⟩) ++ [67]),
    (2, Snapshot.encode ⟨⟨5⟩, 1⟩)]⟩
  fresh := 3

/-- Opening cuts both logs and compacts the queue; the one pending message is listed before and
after. -/
theorem inspection_shows_stores_tornStores :
    (Summary.collect tornStores "/data").toOption.map (·.tornTails.length) = some 2 ∧
      ∃ stores, FileStores.openIn ⟨"/data", .directory⟩ { compactThreshold := 0 } .sum tornStores =
          .ok stores stores.disk ∧
        stores.queue.length = 1 ∧ Inspection.Shows tornStores "/data" stores ∧
        ∃ after, Summary.collect (MessageStores.closeState (MessageStores.closeHistory
            (MessageStores.closeQueue stores))).disk "/data" = .ok after ∧
          after.pending = 1 ∧ after.tornTails = [] := by
  have htidy : tornStores.isTidy = true := by decide +kernel
  have hcount : (Summary.collect tornStores "/data").toOption.map (·.pending) = some 1 := by
    decide +kernel
  obtain ⟨stores, hrun, hshows, -, before, after, hbefore, hafter, hpending, -, -, htails, -⟩ :=
    @inspection_shows_stores tornStores "/data" (fun here _ => tidy_of_isTidy htidy here)
      (by decide +kernel) ⟨0, by decide +kernel⟩ ⟨1, by decide +kernel⟩ ⟨2, by decide +kernel⟩
      { compactThreshold := 0 } .sum (exists_ok_of_isOk (by decide +kernel))
      (exists_ok_of_isOk (by decide +kernel)) (exists_ok_of_isOk (by decide +kernel)) .directory
  rw [hbefore] at hcount
  have hone : before.pending = 1 := Option.some.inj hcount
  obtain ⟨summary, snapshot, hcollect, hlength, -⟩ := hshows.summary
  rw [hbefore] at hcollect
  cases hcollect
  exact ⟨by decide +kernel, stores, hrun, hlength.symm.trans hone, hshows, after, hafter,
    hpending.trans hone, htails⟩

end Stores

end Replica
