/-
What opening a store does, whatever lies at its path.

For each store there is one theorem about bytes that can be read and one about bytes
that cannot. A log whose bytes are read is opened with what they say, and one whose
bytes do not even scan keeps them (`Queue.openFile_of_unreadable`,
`History.openFile_of_unreadable`). Only the queue and the state store need a temporary
file, so only they may fail with bytes that can be read: a directory stands in the place
of the temporary file, or its path is too long.
-/
import Replica.Proofs.ByteStore.Content
import Replica.Proofs.Coordinator.FileStores
import Replica.Proofs.Queue.Maintenance

namespace Replica

open FileSystem OpenFile

variable {disk disk' : FileSystem} {path : String} {here : Place} {name : String} {image : Bytes}
  {found : Scan} {e : StoreError}

/-! ## Queues -/

namespace Queue

variable {replay : QueueReplay} {log : Log OpenFile}

theorem opensTo_of_readImage (h : readImage queueFormat replayQueue image = .ok (found, replay)) :
    OpensTo image replay := ⟨found, readImage_eq_ok_iff.1 h⟩

/-- **A queue file whose bytes cannot be read** does not open. The error is that of reading them,
unless there is a directory in the place of the temporary file, and bytes that do not scan stay. -/
theorem openFile_of_unreadable (h : disk.Content path here name image)
    (hread : readImage queueFormat replayQueue image = .error e) (options : StoreOptions) :
    ∃ e' disk', openFile path options disk = .error e' disk' ∧
      Alters here [name, temporaryName name] disk disk' ∧
      (disk.entry? (here ++ [temporaryName name]) ≠ some .directory → e' = e) ∧
      ((∃ e, scan queueFormat image = .error e) → disk'.Content path here name image) := by
  rw [openFile, openFileWith_eq]
  rcases h.isFilePath.removeStale h.tidy with
    ⟨removed, disk₁, hstale, halters₁, -⟩ | ⟨hdirectory, e', hstale⟩
  · have h₁ := h.alters halters₁ (name_not_mem_temporary name)
    obtain ⟨file, n, disk₂, hopen, hentry, hheld, halters₂, -⟩ := h₁.opened
    have halters : Alters here [name, temporaryName name] disk disk₂ :=
      (halters₁.mono (by simp)).trans (halters₂.mono (by simp))
    rw [hstale]
    dsimp only
    rw [hopen]
    dsimp only
    rcases readImage_eq_error hread with hscan | ⟨found, hscan, hreplay⟩
    · rw [Log.recover_of_scan_error ((contract n disk₂).readAll hheld) hscan]
      exact ⟨e, disk₂, rfl, halters, fun _ => rfl, fun _ =>
        ⟨h.isFilePath.keeps halters.keeps, halters.tidy, h.fits, .inr ⟨n, hentry, hheld.bytes⟩⟩⟩
    · obtain ⟨file', disk₃, hrecover, hheld', -⟩ := Log.recover_file hheld hscan
      rw [hrecover]
      dsimp only
      rw [hreplay]
      have halters₃ := alters_of_holds halters₂.tidy hentry hheld'
      refine ⟨e, disk₃, rfl, halters.trans (halters₃.mono (by simp)), fun _ => rfl, ?_⟩
      rintro ⟨e', hfails⟩
      rw [hscan] at hfails
      cases hfails
  · rw [hstale]
    exact ⟨_, disk, rfl, .refl h.tidy _, fun hplain => absurd hdirectory.2 hplain, fun _ => h⟩

theorem maintainWith_of_not_fits (hfits : ¬ Route.Fits (Path.temporary path)) (htidy : disk.Tidy here)
    (hlog : LogOn log disk here name image) (hreplays : Replays image replay) (options : StoreOptions) :
    (∃ log' disk' image', maintainWith none path options replay log disk = .ok log' disk' ∧
        LogOn log' disk' here name image' ∧
        Trimmed options.compactThreshold replay.pending.toList image' ∧
        Alters here [name] disk disk') ∨
      options.compactThreshold < replay.consumed ∧
        ∃ e, maintainWith none path options replay log disk = .error e disk := by
  rw [maintainWith_eq]
  by_cases hdrained : replay.pending.length = 0 ∧ 0 < replay.consumed
  · obtain ⟨hformat, n, hentry, hheld⟩ := hlog
    have hempty : replay.pending.toList = [] := by
      rw [← List.length_eq_zero_iff, Fifo.length_toList]
      exact hdrained.1
    rw [if_pos hdrained, Log.reset_file hheld.isOn, hempty]
    exact .inl ⟨_, _, [], rfl, ⟨hformat, n, hentry, (hheld.setBytes []).rebase⟩, trimmed_nil _,
      alters_setBytes htidy hentry []⟩
  · rw [if_neg hdrained]
    by_cases hfull : options.compactThreshold < replay.consumed
    · obtain ⟨e, he⟩ := replaceWith_of_not_fits hfits
      obtain ⟨image', himage⟩ := compactImage_of_fits hreplays.fits
      rw [if_pos hfull, compactWith_eq, himage]
      dsimp only
      rw [he]
      exact .inr ⟨hfull, _, rfl⟩
    · rw [if_neg hfull]
      exact .inl ⟨log, disk, image, rfl, hlog, trimmed_of_replays hreplays hdrained hfull,
        .refl htidy _⟩

theorem openFile_of_not_fits (h : disk.Content path here name image)
    (hread : readImage queueFormat replayQueue image = .ok (found, replay))
    (hfits : ¬ Route.Fits (Path.temporary path)) (options : StoreOptions) :
    (∃ log disk' image', openFile path options disk =
          .ok ⟨some path, some log, replay.pending.toList⟩ disk' ∧
        LogOn log disk' here name image' ∧
        Trimmed options.compactThreshold replay.pending.toList image' ∧
        Alters here [name] disk disk') ∨
      options.compactThreshold < replay.consumed ∧
        ∃ e disk', openFile path options disk = .error e disk' ∧ Alters here [name] disk disk' ∧
          FileOpensTo disk' here name replay.pending.toList ∧
          disk'.entry? (here ++ [name]) ≠ none := by
  obtain ⟨hscan, hreplay⟩ := readImage_eq_ok_iff.1 hread
  obtain ⟨file, n, disk₁, hopen, hentry, hheld, halters₁, -⟩ := h.opened
  obtain ⟨file', disk₂, hrecover, hheld', hwalk⟩ := Log.recover_file hheld hscan
  have halters₂ : Alters here [name] disk disk₂ :=
    halters₁.trans (alters_of_holds halters₁.tidy hentry hheld')
  have hentry₂ : disk₂.entry? (here ++ [name]) = some (.file n) := by
    rw [hheld'.entry?_eq, hentry]
  have hlog : LogOn ⟨file', queueFormat, options.syncOnWrite⟩ disk₂ here name
      (image.take found.validLength) := ⟨rfl, n, hentry₂, hheld'.rebase⟩
  have hreplays : Replays (image.take found.validLength) replay :=
    ⟨_, hwalk.scanFrom_eq_ok, rfl, hreplay⟩
  rw [openFile, openFileWith_eq, (blocked_of_not_fits hfits).removeStale]
  dsimp only
  rw [hopen]
  dsimp only
  rw [hrecover]
  dsimp only
  rw [hreplay]
  dsimp only
  -- The temporary file cannot be named, so it is up to the compacting whether opening fails.
  rcases maintainWith_of_not_fits hfits halters₂.tidy hlog hreplays options with
    ⟨log', disk', image', hrun, hlog', htrimmed, halters₃⟩ | ⟨hfull, e, hrun⟩
  · rw [hrun]
    exact .inl ⟨log', disk', image', rfl, hlog', htrimmed, halters₂.trans halters₃⟩
  · rw [hrun]
    refine .inr ⟨hfull, e, disk₂, rfl, halters₂, ?_, by simp [hentry₂]⟩
    exact .inr ⟨_, replay, hlog.hasFile, hreplays.opensTo, rfl⟩

/-- **A queue file whose bytes can be read** opens with what is pending, and leaves a trimmed log
that says so. If it does not, the temporary file is in the way or its path is too long, and the file
still says the same. -/
theorem openFile_of_readable (h : disk.Content path here name image)
    (hread : readImage queueFormat replayQueue image = .ok (found, replay)) (options : StoreOptions) :
    (∃ log disk' image', openFile path options disk =
          .ok ⟨some path, some log, replay.pending.toList⟩ disk' ∧
        LogOn log disk' here name image' ∧
        Trimmed options.compactThreshold replay.pending.toList image' ∧
        Alters here [name, temporaryName name] disk disk' ∧
        (Route.Fits (Path.temporary path) → disk'.entry? (here ++ [temporaryName name]) = none)) ∨
      ∃ e disk', openFile path options disk = .error e disk' ∧
        Alters here [name, temporaryName name] disk disk' ∧
        FileOpensTo disk' here name replay.pending.toList ∧
        (disk.entry? (here ++ [name]) ≠ none → disk'.entry? (here ++ [name]) ≠ none) ∧
        (Route.Fits (Path.temporary path) ∧
            disk.entry? (here ++ [temporaryName name]) = some .directory ∨
          ¬ Route.Fits (Path.temporary path) ∧ options.compactThreshold < replay.consumed) := by
  have hopens : FileOpensTo disk here name replay.pending.toList := by
    rcases h.bytes with ⟨hnew, rfl⟩ | hfile
    · rw [readImage_eq_ok_iff, scan_nil] at hread
      obtain ⟨hscan, hreplay⟩ := hread
      cases hscan
      cases hreplay
      exact .inl ⟨hnew, rfl⟩
    · exact .inr ⟨image, replay, hfile, opensTo_of_readImage hread, rfl⟩
  by_cases hfits : Route.Fits (Path.temporary path)
  · by_cases hdirectory : disk.entry? (here ++ [temporaryName name]) = some .directory
    · rcases h.isFilePath.removeStale h.tidy with
        ⟨removed, disk₁, hstale, halters, hgone⟩ | ⟨-, e, hstale⟩
      · exact absurd (halters.keeps.directory hdirectory) (by simp [hgone hfits])
      · rw [openFile, openFileWith_eq, hstale]
        exact .inr ⟨_, disk, rfl, .refl h.tidy _, hopens, id, .inl ⟨hfits, hdirectory⟩⟩
    · have hreplaceable : disk.Replaceable path here name :=
        ⟨h.isFilePath, h.tidy, h.fits, hfits, h.not_directory, hdirectory⟩
      obtain ⟨log, disk', hrun, hkept⟩ := openFile_kept hreplaceable hopens options
      obtain ⟨image', hlog, htrimmed⟩ := hkept.trimmed
      obtain ⟨-, -, -, halters⟩ := openFile_ok h.isFilePath h.tidy hrun
      exact .inl ⟨log, disk', image', hrun, hlog, htrimmed, halters, fun _ => hkept.gone⟩
  · rcases openFile_of_not_fits h hread hfits options with
      ⟨log, disk', image', hrun, hlog, htrimmed, halters⟩ |
      ⟨hfull, e, disk', hrun, halters, hopens', hthere⟩
    · exact .inl ⟨log, disk', image', hrun, hlog, htrimmed, halters.mono (by simp),
        fun hfits' => absurd hfits' hfits⟩
    · exact .inr ⟨e, disk', hrun, halters.mono (by simp), hopens', fun _ => hthere,
        .inr ⟨hfits, hfull⟩⟩

theorem openFile_inv (h : disk.Content path here name image) {options : StoreOptions}
    {queue : Queue OpenFile} (hrun : openFile path options disk = .ok queue disk') :
    ∃ found replay log image', readImage queueFormat replayQueue image = .ok (found, replay) ∧
      queue = ⟨some path, some log, replay.pending.toList⟩ ∧ LogOn log disk' here name image' ∧
      Trimmed options.compactThreshold replay.pending.toList image' ∧
      Alters here [name, temporaryName name] disk disk' ∧
      (Route.Fits (Path.temporary path) → disk'.entry? (here ++ [temporaryName name]) = none) := by
  cases hread : readImage queueFormat replayQueue image with
  | error e =>
    obtain ⟨e', disk₁, hfails, -⟩ := openFile_of_unreadable h hread options
    rw [hfails] at hrun
    cases hrun
  | ok read =>
    obtain ⟨found, replay⟩ := read
    rcases openFile_of_readable h hread options with
      ⟨log, disk₁, image', hopens, hlog, htrimmed, halters, hgone⟩ | ⟨e, disk₁, hfails, -⟩
    · rw [hopens] at hrun
      cases hrun
      exact ⟨found, replay, log, image', rfl, rfl, hlog, htrimmed, halters, hgone⟩
    · rw [hfails] at hrun
      cases hrun

end Queue

/-! ## Histories -/

namespace History

variable {entries : List Message}

/-- **A history file whose bytes cannot be read** does not open, and bytes that do not scan stay. -/
theorem openFile_of_unreadable (h : disk.Content path here name image)
    (hread : readImage historyFormat replayHistory image = .error e) (options : StoreOptions) :
    ∃ disk', openFile path options disk = .error e disk' ∧ Alters here [name] disk disk' ∧
      ((∃ e, scan historyFormat image = .error e) → disk'.Content path here name image) := by
  obtain ⟨file, n, disk₁, hopen, hentry, hheld, halters, -⟩ := h.opened
  rw [openFile_eq, hopen]
  dsimp only
  rw [attach_eq]
  rcases readImage_eq_error hread with hscan | ⟨found, hscan, hreplay⟩
  · rw [Log.recover_of_scan_error ((contract n disk₁).readAll hheld) hscan]
    exact ⟨disk₁, rfl, halters, fun _ =>
      ⟨h.isFilePath.keeps halters.keeps, halters.tidy, h.fits, .inr ⟨n, hentry, hheld.bytes⟩⟩⟩
  · obtain ⟨file', disk₂, hrecover, hheld', -⟩ := Log.recover_file hheld hscan
    rw [hrecover]
    dsimp only
    rw [hreplay]
    refine ⟨disk₂, rfl, halters.trans (alters_of_holds halters.tidy hentry hheld'), ?_⟩
    rintro ⟨e', hfails⟩
    rw [hscan] at hfails
    cases hfails

/-- **A history file whose bytes can be read** opens with its entries. -/
theorem openFile_of_readable (h : disk.Content path here name image)
    (hread : readImage historyFormat replayHistory image = .ok (found, entries))
    (options : StoreOptions) :
    ∃ history disk', openFile path options disk = .ok history disk' ∧
      history.InFile disk' here name entries ∧ history.stack = entries.reverse ∧
      Alters here [name] disk disk' := by
  obtain ⟨hscan, hreplay⟩ := readImage_eq_ok_iff.1 hread
  obtain ⟨file, n, disk₁, hopen, hentry, hheld, halters, -⟩ := h.opened
  obtain ⟨file', disk₂, hrecover, hheld', hwalk⟩ := Log.recover_file hheld hscan
  rw [openFile_eq, hopen]
  dsimp only
  rw [attach_eq, hrecover]
  dsimp only
  rw [hreplay]
  dsimp only
  refine ⟨_, disk₂, rfl, ⟨n, ?_, _, _, rfl, rfl, hheld'.rebase, _, hwalk.scanFrom_eq_ok, rfl,
    hreplay⟩, rfl, halters.trans (alters_of_holds halters.tidy hentry hheld')⟩
  rw [hheld'.entry?_eq, hentry]

theorem openFile_inv (h : disk.Content path here name image) {options : StoreOptions}
    {history : History OpenFile} (hrun : openFile path options disk = .ok history disk') :
    ∃ found entries, readImage historyFormat replayHistory image = .ok (found, entries) ∧
      history.InFile disk' here name entries ∧ Alters here [name] disk disk' := by
  cases hread : readImage historyFormat replayHistory image with
  | error e =>
    obtain ⟨disk₁, hfails, -⟩ := openFile_of_unreadable h hread options
    rw [hfails] at hrun
    cases hrun
  | ok read =>
    obtain ⟨found, entries⟩ := read
    obtain ⟨history', disk₁, hopens, hfile, -, halters⟩ := openFile_of_readable h hread options
    rw [hopens] at hrun
    cases hrun
    exact ⟨found, entries, rfl, hfile, halters⟩

end History

/-! ## State stores -/

namespace StateStore

variable {fold : Fold} {snapshot : Snapshot}

/-- **A state file that cannot be read** does not open and keeps its bytes. The error is that of
reading it, unless there is a directory in the place of the temporary file. -/
theorem openFile_of_unreadable (h : disk.Content path here name image)
    (hfile : disk.HasFile here name image) (hread : Snapshot.decode image = .error e) (fold : Fold) :
    ∃ e' disk', openFile path fold disk = .error e' disk' ∧
      Alters here [temporaryName name] disk disk' ∧
      (disk.entry? (here ++ [temporaryName name]) ≠ some .directory → e' = e) := by
  rw [openFile, openFileWith_eq]
  rcases h.isFilePath.removeStale h.tidy with
    ⟨removed, disk₁, hstale, halters, -⟩ | ⟨hdirectory, e', hstale⟩
  · have hfile₁ := hfile.alters halters (name_not_mem_temporary name)
    have h₁ := h.alters halters (name_not_mem_temporary name)
    have hread₁ : readSnapshot disk₁ path = .error e := by
      rw [readSnapshot, h₁.isFilePath.names.readAll h.fits hfile₁]
      exact hread
    rw [hstale]
    dsimp only
    rw [if_pos (h₁.exists_of_file hfile₁), hread₁]
    exact ⟨e, disk₁, rfl, halters, fun _ => rfl⟩
  · rw [hstale]
    exact ⟨_, disk, rfl, .refl h.tidy _, fun hplain => absurd hdirectory.2 hplain⟩

/-- **A state file that can be read** opens with its snapshot, unless there is a directory in the
place of the temporary file. -/
theorem openFile_of_readable (h : disk.Content path here name image)
    (hfile : disk.HasFile here name image) (hread : Snapshot.decode image = .ok snapshot)
    (fold : Fold) :
    (∃ disk', openFile path fold disk = .ok ⟨path, fold, snapshot, false⟩ disk' ∧
        Alters here [temporaryName name] disk disk') ∨
      ∃ e, openFile path fold disk = .error e disk ∧ Route.Fits (Path.temporary path) ∧
        disk.entry? (here ++ [temporaryName name]) = some .directory := by
  rw [openFile, openFileWith_eq]
  rcases h.isFilePath.removeStale h.tidy with
    ⟨removed, disk₁, hstale, halters, -⟩ | ⟨hdirectory, e, hstale⟩
  · have hfile₁ := hfile.alters halters (name_not_mem_temporary name)
    have h₁ := h.alters halters (name_not_mem_temporary name)
    have hread₁ : readSnapshot disk₁ path = .ok snapshot := by
      rw [readSnapshot, h₁.isFilePath.names.readAll h.fits hfile₁]
      exact hread
    rw [hstale]
    dsimp only
    rw [if_pos (h₁.exists_of_file hfile₁), hread₁]
    exact .inl ⟨disk₁, rfl, halters⟩
  · rw [hstale]
    exact .inr ⟨_, rfl, hdirectory⟩

/-- **A state file that is missing** is made, unless the temporary file is in the way or its path is
too long. -/
theorem openFile_of_missing (h : disk.IsFilePath path here name) (htidy : disk.Tidy here)
    (hfits : Route.Fits path) (hnew : disk.entry? (here ++ [name]) = none) (fold : Fold) :
    (∃ disk', openFile path fold disk = .ok ⟨path, fold, ⟨fold.initial, 0⟩, false⟩ disk' ∧
        FileHolds disk' here name ⟨fold.initial, 0⟩ ∧
        Alters here [name, temporaryName name] disk disk') ∨
      ∃ e disk', openFile path fold disk = .error e disk' ∧
        Alters here [temporaryName name] disk disk' ∧
        (Route.Fits (Path.temporary path) ∧
            disk.entry? (here ++ [temporaryName name]) = some .directory ∨
          ¬ Route.Fits (Path.temporary path)) := by
  rw [openFile, openFileWith_eq]
  rcases h.removeStale htidy with ⟨removed, disk₁, hstale, halters, hgone⟩ | ⟨hdirectory, e, hstale⟩
  · have hpath := h.keeps halters.keeps
    have hnew₁ : disk₁.entry? (here ++ [name]) = none := by
      rw [halters.entry (name_not_mem_temporary name), hnew]
    have hmissing : ¬ disk₁.exists path = true :=
      fun hexists => (hpath.names.exists_iff.1 hexists).2 hnew₁
    rw [hstale]
    dsimp only
    rw [if_neg hmissing]
    rcases createWith_cases hpath halters.tidy hfits hnew₁ hgone fold with
      ⟨hfits', hcreate⟩ | ⟨hfits', e, hcreate⟩
    · rw [hcreate]
      exact .inl ⟨_, rfl, fileHolds_replaced .., (halters.mono (by simp)).trans
        (alters_replaced halters.tidy (hgone hfits') (by simp [hnew₁]) _)⟩
    · rw [hcreate]
      exact .inr ⟨e, disk₁, rfl, halters, .inr hfits'⟩
  · rw [hstale]
    exact .inr ⟨_, disk, rfl, .refl htidy _, .inl hdirectory⟩

theorem openFile_inv (h : disk.Content path here name image) {state : StateStore}
    (hrun : openFile path fold disk = .ok state disk') :
    ∃ snapshot, state = ⟨path, fold, snapshot, false⟩ ∧
      (disk.entry? (here ++ [name]) = none ∧ snapshot = ⟨fold.initial, 0⟩ ∨
        disk.HasFile here name image ∧ Snapshot.decode image = .ok snapshot) := by
  rcases h.bytes with ⟨hnew, -⟩ | hfile
  · rcases openFile_of_missing h.isFilePath h.tidy h.fits hnew fold with
      ⟨disk₁, hopens, -⟩ | ⟨e, disk₁, hfails, -⟩
    · rw [hopens] at hrun
      cases hrun
      exact ⟨_, rfl, .inl ⟨hnew, rfl⟩⟩
    · rw [hfails] at hrun
      cases hrun
  · cases hread : Snapshot.decode image with
    | error e =>
      obtain ⟨e', disk₁, hfails, -⟩ := openFile_of_unreadable h hfile hread fold
      rw [hfails] at hrun
      cases hrun
    | ok snapshot =>
      rcases openFile_of_readable h hfile hread fold with ⟨disk₁, hopens, -⟩ | ⟨e, hfails, -⟩
      · rw [hopens] at hrun
        cases hrun
        exact ⟨snapshot, rfl, .inr ⟨hfile, rfl⟩⟩
      · rw [hfails] at hrun
        cases hrun

theorem not_blocked_of_openFile (h : disk.Content path here name image) {state : StateStore}
    (hrun : openFile path fold disk = .ok state disk') (hfits : Route.Fits (Path.temporary path)) :
    disk.entry? (here ++ [temporaryName name]) ≠ some .directory := by
  intro hdirectory
  rw [openFile, openFileWith_eq] at hrun
  rcases h.isFilePath.removeStale h.tidy with ⟨removed, disk₁, -, halters, hgone⟩ | ⟨-, e, hstale⟩
  · have hkept := halters.keeps.directory hdirectory
    rw [hgone hfits] at hkept
    cases hkept
  · rw [hstale] at hrun
    cases hrun

end StateStore

/-! ## Directories -/

/-- **The three store files of a directory**, any of which may be missing, and their bytes. -/
structure DataDirectory.Files (disk : FileSystem) (path : String) (here : Place)
    (queue history state : Bytes) : Prop where
  fits : Route.Fits path
  leads : disk.Leads path.toList here
  queue : disk.Content (queuePath path) here queueFile queue
  history : disk.Content (historyPath path) here historyFile history
  state : disk.Content (statePath path) here stateFile state

/-- **Stores that have just been opened**, over a queue log that was taken care of. -/
structure FileStores.Opened (stores : FileStores) (path : String) (here : Place) (threshold : Nat)
    (pending entries : List Message) (snapshot : Snapshot) : Prop where
  inDirectory : stores.InDirectory path here entries
  pendingEq : stores.queue.pending = pending
  snapshotEq : stores.state.snapshot = snapshot
  trimmed : ∃ image, stores.disk.HasFile here DataDirectory.queueFile image ∧
    Queue.Trimmed threshold pending image
  temporary (h : Route.Fits (Path.temporary (DataDirectory.queuePath path))) :
    stores.disk.entry? (here ++ [temporaryName DataDirectory.queueFile]) = none

section Directories

open DataDirectory

variable {queue history state : Bytes}

theorem DataDirectory.files_of_ordinary
    (htidy : ∀ here, disk.Leads path.toList here → disk.Tidy here)
    (hdir : disk.isDirectory path = true) (hqueue : disk.Ordinary (queuePath path))
    (hhistory : disk.Ordinary (historyPath path)) (hstate : disk.Ordinary (statePath path)) :
    ∃ here queue history state, Files disk path here queue history state := by
  have hfits := fits_of_isDirectory hdir
  obtain ⟨here, hleads⟩ := (isDirectory_iff_leads hfits).1 hdir
  obtain ⟨queue, hqueue⟩ := hqueue.content hfits.2.1 isFileName_queueFile hleads (htidy here hleads)
  obtain ⟨history, hhistory⟩ :=
    hhistory.content hfits.2.1 isFileName_historyFile hleads (htidy here hleads)
  obtain ⟨state, hstate⟩ := hstate.content hfits.2.1 isFileName_stateFile hleads (htidy here hleads)
  exact ⟨here, queue, history, state, hfits, hleads, hqueue, hhistory, hstate⟩

/-- **Stores that have been opened** hold what the three files said. -/
theorem FileStores.openIn_inv (h : Files disk path here queue history state) {lock : Entry}
    {options : StoreOptions} {fold : Fold} {stores : FileStores}
    (hrun : openIn ⟨path, lock⟩ options fold disk = .ok stores disk') :
    stores.disk = disk' ∧ ∃ found replay found' entries snapshot,
      readImage queueFormat replayQueue queue = .ok (found, replay) ∧
      readImage historyFormat replayHistory history = .ok (found', entries) ∧
      (disk.entry? (here ++ [stateFile]) = none ∧ snapshot = ⟨fold.initial, 0⟩ ∨
        disk.HasFile here stateFile state ∧ Snapshot.decode state = .ok snapshot) ∧
      stores.Opened path here options.compactThreshold replay.pending.toList entries snapshot := by
  rw [openIn_eq] at hrun
  split at hrun
  · cases hrun
  · rename_i opened disk₁ hopen
    obtain ⟨found, replay, log, image, hread, rfl, hlog, htrimmed, halters₁, hgone⟩ :=
      Queue.openFile_inv h.queue hopen
    split at hrun
    · cases hrun
    · rename_i opened' disk₂ hopen'
      obtain ⟨found', entries, hread', hentries, halters₂⟩ :=
        History.openFile_inv (h.history.alters halters₁ (by decide)) hopen'
      have hstate := (h.state.alters halters₁ (by decide)).alters halters₂ (by decide)
      split at hrun
      · cases hrun
      · rename_i opened'' disk₃ hopen''
        cases hrun
        obtain ⟨snapshot, rfl, hsaid⟩ := StateStore.openFile_inv hstate hopen''
        obtain ⟨hheld, halters₃⟩ :=
          StateStore.openFile_ok hstate.isFilePath hstate.tidy hstate.fits hopen''
        have halters : Alters here [historyFile, stateFile, temporaryName stateFile] disk₁ disk' :=
          (halters₂.mono (by simp)).trans (halters₃.mono (by simp))
        obtain ⟨replay', hreplays, hpending, -⟩ := id htrimmed
        have hfile := hlog.hasFile.alters halters (by decide)
        obtain ⟨hformat, n, hentry, hlogged⟩ := hlog
        refine ⟨rfl, found, replay, found', entries, snapshot, hread, hread', ?_, ?_, rfl, rfl,
          ⟨image, hfile, htrimmed⟩, fun hfits => ?_⟩
        · have hsame : disk₂.entry? (here ++ [stateFile]) = disk.entry? (here ++ [stateFile]) := by
            rw [halters₂.entry (by decide), halters₁.entry (by decide)]
          rcases h.state.bytes with ⟨hnew, -⟩ | hfile
          · rcases hsaid with ⟨-, hinitial⟩ | ⟨⟨n, hthere, -⟩, -⟩
            · exact .inl ⟨hnew, hinitial⟩
            · rw [hsame, hnew] at hthere
              cases hthere
          · rcases hsaid with ⟨hnew, -⟩ | ⟨-, hdecode⟩
            · obtain ⟨n, hthere, -⟩ := hfile
              rw [hsame, hthere] at hnew
              cases hnew
            · exact .inr ⟨hfile, hdecode⟩
        · refine ⟨h.state.fits, h.fits.2.1, (h.leads.keeps halters₁.keeps).keeps halters.keeps,
            halters₃.tidy, ⟨log, rfl, hformat, n, image, replay', ?_, ?_, hreplays, hpending⟩,
            hentries.alters halters₃ (by decide), hheld⟩
          · show disk'.entry? _ = _
            rw [halters.entry (by decide), hentry]
          · exact hlogged.alters hentry halters (by decide)
        · show disk'.entry? _ = _
          rw [halters.entry (by decide), hgone hfits]

/-- **The files that stores have just been opened on** say what the stores hold, and no record in them
is torn. -/
theorem FileStores.Opened.files {stores : FileStores} {threshold : Nat}
    {pending entries : List Message} {snapshot : Snapshot}
    (h : stores.Opened path here threshold pending entries snapshot) (hfits : Route.Fits path)
    (hqueue : Route.Fits (queuePath path)) (hhistory : Route.Fits (historyPath path)) :
    ∃ queue history state found replay found', Files stores.disk path here queue history state ∧
      stores.disk.HasFile here queueFile queue ∧ stores.disk.HasFile here historyFile history ∧
      stores.disk.HasFile here stateFile state ∧
      readImage queueFormat replayQueue queue = .ok (found, replay) ∧ found.tornTail = none ∧
      replay.pending.toList = pending ∧ replay.consumed ≤ threshold ∧
      readImage historyFormat replayHistory history = .ok (found', entries) ∧
      found'.tornTail = none ∧ Snapshot.decode state = .ok snapshot := by
  have hleads := h.inDirectory.leads
  have htidy := h.inDirectory.tidy
  obtain ⟨image, hfile, replay, ⟨found, hscan, hwhole, hreplay⟩, hpending, hconsumed, -⟩ := h.trimmed
  obtain ⟨n, hentry', log, image', -, -, hheld', found', hscan', hwhole', hreplay'⟩ :=
    h.inDirectory.history
  obtain ⟨m, image'', hentry'', hbytes'', hdecode⟩ := h.inDirectory.state.holds
  have hfile' : stores.disk.HasFile here historyFile image' := ⟨n, hentry', hheld'.bytes⟩
  have hfile'' : stores.disk.HasFile here stateFile image'' := ⟨m, hentry'', hbytes''⟩
  rw [h.snapshotEq] at hdecode
  refine ⟨image, image', image'', found, replay, found', ⟨hfits, hleads, ?_, ?_, ?_⟩, hfile, hfile',
    hfile'', readImage_eq_ok_iff.2 ⟨hscan, hreplay⟩, hwhole, hpending, hconsumed,
    readImage_eq_ok_iff.2 ⟨hscan', hreplay'⟩, hwhole', hdecode⟩
  · exact ⟨isFilePath_join hfits.2.1 isFileName_queueFile hleads, htidy, hqueue, .inr hfile⟩
  · exact ⟨isFilePath_join hfits.2.1 isFileName_historyFile hleads, htidy, hhistory, .inr hfile'⟩
  · exact ⟨isFilePath_join hfits.2.1 isFileName_stateFile hleads, htidy, h.inDirectory.fits,
      .inr hfile''⟩

/-- **Stores open together** if the queue opens, the history can be read, and there is a state file that
can be read with nothing in the way of its temporary file. -/
theorem FileStores.openIn_of_openQueue (h : Files disk path here queue history state) {lock : Entry}
    {options : StoreOptions} {fold : Fold} {opened : Queue OpenFile}
    (hqueue : Queue.openFile (queuePath path) options disk = .ok opened disk')
    {entries : List Message}
    (hread : readImage historyFormat replayHistory history = .ok (found, entries))
    (hfile : disk.HasFile here stateFile state) {snapshot : Snapshot}
    (hdecode : Snapshot.decode state = .ok snapshot)
    (hplain : Route.Fits (Path.temporary (statePath path)) →
      disk.entry? (here ++ [temporaryName stateFile]) ≠ some .directory) :
    ∃ stores disk', openIn ⟨path, lock⟩ options fold disk = .ok stores disk' := by
  obtain ⟨-, -, -, -, -, -, -, -, halters, -⟩ := Queue.openFile_inv h.queue hqueue
  obtain ⟨opened', disk₂, hhistory, -, -, halters'⟩ := History.openFile_of_readable
    (h.history.alters halters (by decide)) hread options
  have hcontent := (h.state.alters halters (by decide)).alters halters' (by decide)
  have hfile' := (hfile.alters halters (by decide)).alters halters' (by decide)
  rw [openIn_eq]
  dsimp only
  rw [hqueue]
  dsimp only
  rw [hhistory]
  dsimp only
  rcases StateStore.openFile_of_readable hcontent hfile' hdecode fold with
    ⟨disk₃, hstate, -⟩ | ⟨e, -, hfits, hdirectory⟩
  · rw [hstate]
    exact ⟨_, _, rfl⟩
  · rw [halters'.entry (by decide), halters.entry (by decide)] at hdirectory
    exact absurd hdirectory (hplain hfits)

end Directories

end Replica
