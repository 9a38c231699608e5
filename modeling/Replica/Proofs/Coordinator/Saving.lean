/-
What opening the stores of a directory keeps, whether it succeeds or not.

What a file said is not lost (`FileSystem.Saved`): a file that could be read says the
same, a missing file is still missing or says what a new one says, and bytes that are
beyond reading are not touched. Opening any one store saves what its file said and does not
touch the other files, so however far the opening of a directory gets, it saves what all
three said (`FileStores.saves_openIn`).
-/
import Replica.Proofs.Coordinator.Opening

namespace Replica

open FileSystem

variable {α β : Type} {disk disk' disk'' : FileSystem} {path : String} {here : Place} {name : String}
  {image image' : Bytes} {read : Bytes → Except StoreError α} {ruined : Bytes → Prop} {fresh : α}

/-! ## What a file said -/

/-- **Nothing is lost that a file said.** `read` is what its bytes say, `ruined` holds of bytes that
are beyond reading, and `fresh` is what a new file says. -/
structure FileSystem.Saved (disk disk' : FileSystem) (path : String)
    (read : Bytes → Except StoreError α) (ruined : Bytes → Prop) (fresh : α) : Prop where
  kept {image : Bytes} {a : α} (hbytes : disk.readAll path = .ok image) (hread : read image = .ok a) :
    ∃ image', disk'.readAll path = .ok image' ∧ read image' = .ok a
  made (h : disk.exists path = false) :
    disk'.exists path = false ∨ ∃ image, disk'.readAll path = .ok image ∧ read image = .ok fresh
  untouched {image : Bytes} (hbytes : disk.readAll path = .ok image) (hruined : ruined image) :
    disk'.readAll path = .ok image

namespace FileSystem

theorem Saved.trans (h : disk.Saved disk' path read ruined fresh)
    (h' : disk'.Saved disk'' path read ruined fresh) : disk.Saved disk'' path read ruined fresh := by
  refine ⟨fun hbytes hread => ?_, fun hnew => ?_, fun hbytes hruined => ?_⟩
  · obtain ⟨image', hbytes', hread'⟩ := h.kept hbytes hread
    exact h'.kept hbytes' hread'
  · rcases h.made hnew with hnew' | ⟨image', hbytes', hread'⟩
    · exact h'.made hnew'
    · exact .inr (h'.kept hbytes' hread')
  · exact h'.untouched (h.untouched hbytes hruined) hruined

theorem Saved.unlock (h : disk.Saved disk' path read ruined fresh) (lock : Entry) :
    disk.Saved (disk'.unlock lock) path read ruined fresh := by
  have hread : (disk'.unlock lock).readAll path = disk'.readAll path := by
    rw [readAll, lookup_unlock]
    rfl
  have hexists : (disk'.unlock lock).exists path = disk'.exists path := by
    rw [FileSystem.exists, lookup_unlock]
    rfl
  refine ⟨fun hbytes hsaid => ?_, fun hnew => ?_, fun hbytes hruined => ?_⟩
  · rw [hread]
    exact h.kept hbytes hsaid
  · rw [hread, hexists]
    exact h.made hnew
  · rw [hread]
    exact h.untouched hbytes hruined

namespace Content

theorem readAll_iff (h : disk.Content path here name image) :
    disk.readAll path = .ok image' ↔ disk.HasFile here name image ∧ image' = image := by
  constructor
  · intro hread
    obtain ⟨n, hentry, hbytes⟩ := h.isFilePath.names.hasFile_of_readAll h.fits h.tidy hread
    rcases h.bytes with ⟨hnew, -⟩ | ⟨m, hentry', hbytes'⟩
    · rw [hnew] at hentry
      cases hentry
    · rw [hentry'] at hentry
      cases hentry
      rw [hbytes'] at hbytes
      cases hbytes
      exact ⟨⟨_, hentry', hbytes'⟩, rfl⟩
  · rintro ⟨hfile, rfl⟩
    exact h.isFilePath.names.readAll h.fits hfile

theorem withFile (h : disk.Content path here name image) {touched : List String}
    (halters : Alters here touched disk disk') (hfile : disk'.HasFile here name image') :
    disk'.Content path here name image' :=
  ⟨h.isFilePath.keeps halters.keeps, halters.tidy, h.fits, .inr hfile⟩

theorem entry_of_not_exists (h : disk.Content path here name image) (hnew : disk.exists path = false) :
    disk.entry? (here ++ [name]) = none := h.isFilePath.names.entry?_of_not_exists h.fits hnew

theorem saved_of_alters (h : disk.Content path here name image) {touched : List String}
    (halters : Alters here touched disk disk') (hname : name ∉ touched) :
    disk.Saved disk' path read ruined fresh := by
  have h' := h.alters halters hname
  have hsame {image' : Bytes} (hbytes : disk.readAll path = .ok image') :
      disk'.readAll path = .ok image' := by
    obtain ⟨hfile, rfl⟩ := h.readAll_iff.1 hbytes
    exact h'.readAll_iff.2 ⟨hfile.alters halters hname, rfl⟩
  refine ⟨fun hbytes hread => ⟨_, hsame hbytes, hread⟩, fun hnew => .inl (h'.not_exists ?_),
    fun hbytes _ => hsame hbytes⟩
  rw [halters.entry hname, h.entry_of_not_exists hnew]

end Content

end FileSystem

/-! ## Logs -/

/-- The bytes are not the bytes of a log. -/
def Unscannable (format : LogFormat) (image : Bytes) : Prop := ∃ e, scan format image = .error e

section Logs

variable {format : LogFormat} {replay : List LogRecord → Except StoreError β} {value : β → α}

/-- What a log says, of which only a part matters. -/
def readLogAs (format : LogFormat) (replay : List LogRecord → Except StoreError β) (value : β → α)
    (image : Bytes) : Except StoreError α :=
  match readImage format replay image with
  | .error e => .error e
  | .ok (_, held) => .ok (value held)

theorem readLogAs_eq_ok_iff {a : α} : readLogAs format replay value image = .ok a ↔
    ∃ found held, readImage format replay image = .ok (found, held) ∧ value held = a := by
  cases hread : readImage format replay image with
  | error e => simp [readLogAs, hread]
  | ok read =>
    obtain ⟨found, held⟩ := read
    simp only [readLogAs, hread, Except.ok.injEq, Prod.mk.injEq]
    constructor
    · intro hvalue
      exact ⟨found, held, ⟨rfl, rfl⟩, hvalue⟩
    · rintro ⟨_, _, ⟨rfl, rfl⟩, hvalue⟩
      exact hvalue

theorem readLogAs_nil {empty : β} (hempty : replay [] = .ok empty) :
    readLogAs format replay value [] = .ok (value empty) :=
  readLogAs_eq_ok_iff.2 ⟨⟨[], 0, none⟩, empty, readImage_eq_ok_iff.2 ⟨scan_nil format, hempty⟩, rfl⟩

/-- A log is saved if it still says what it said, and is not touched if it does not scan. -/
theorem FileSystem.Content.saved_of_log (h : disk.Content path here name image) {empty : β}
    (hempty : replay [] = .ok empty)
    (hread : ∀ {found held}, readImage format replay image = .ok (found, held) →
      (disk.entry? (here ++ [name]) = none ∧ disk'.exists path = false) ∨
        ∃ image' found' held', disk'.readAll path = .ok image' ∧
          readImage format replay image' = .ok (found', held') ∧ value held' = value held)
    (hruined : Unscannable format image → disk'.Content path here name image) :
    disk.Saved disk' path (readLogAs format replay value) (Unscannable format) (value empty) := by
  have hnothing : readImage format replay [] = .ok (⟨[], 0, none⟩, empty) :=
    readImage_eq_ok_iff.2 ⟨scan_nil format, hempty⟩
  refine ⟨fun {image₀ a} hbytes hsaid => ?_, fun hnew => ?_, fun {image₀} hbytes hruined' => ?_⟩
  · obtain ⟨hfile, rfl⟩ := h.readAll_iff.1 hbytes
    obtain ⟨found, held, hheld, rfl⟩ := readLogAs_eq_ok_iff.1 hsaid
    rcases hread hheld with ⟨hnew, -⟩ | ⟨image', found', held', hbytes', hread', hsame⟩
    · obtain ⟨n, hentry, -⟩ := hfile
      rw [hnew] at hentry
      cases hentry
    · exact ⟨image', hbytes', readLogAs_eq_ok_iff.2 ⟨found', held', hread', hsame⟩⟩
  · have hnone := h.entry_of_not_exists hnew
    rcases h.bytes with ⟨-, rfl⟩ | ⟨n, hentry, -⟩
    · rcases hread hnothing with ⟨-, hnew'⟩ | ⟨image', found', held', hbytes', hread', hsame⟩
      · exact .inl hnew'
      · exact .inr ⟨image', hbytes', readLogAs_eq_ok_iff.2 ⟨found', held', hread', hsame⟩⟩
    · rw [hnone] at hentry
      cases hentry
  · obtain ⟨hfile, rfl⟩ := h.readAll_iff.1 hbytes
    have h' := hruined hruined'
    rcases h'.bytes with ⟨-, hnil⟩ | hfile'
    · obtain ⟨e, hscan⟩ := hruined'
      rw [hnil, scan_nil] at hscan
      cases hscan
    · exact h'.readAll_iff.2 ⟨hfile', rfl⟩

end Logs

/-! ## Opening a store -/

/-- What is pending, read off the bytes of a queue file. -/
def Queue.readPending : Bytes → Except StoreError (List Message) :=
  readLogAs queueFormat replayQueue (·.pending.toList)

/-- The entries, read off the bytes of a history file. -/
def History.readEntries : Bytes → Except StoreError (List Message) :=
  readLogAs historyFormat replayHistory id

/-- The bytes are not the bytes of a state file. -/
def Undecodable (image : Bytes) : Prop := ∃ e, Snapshot.decode image = .error e

/-- **Opening a queue** saves what its file said. -/
theorem Queue.saved_openFile (h : disk.Content path here name image) (options : StoreOptions) :
    disk.Saved (outcome (openFile path options) disk).2 path readPending (Unscannable queueFormat) [] ∧
      Alters here [name, temporaryName name] disk (outcome (openFile path options) disk).2 := by
  have hempty : replayQueue [] = .ok {} := rfl
  simp only [outcome]
  cases hread : readImage queueFormat replayQueue image with
  | error e =>
    obtain ⟨e', disk₁, hrun, halters, -, hstays⟩ := openFile_of_unreadable h hread options
    rw [hrun]
    refine ⟨h.saved_of_log hempty (fun hok => ?_) hstays, halters⟩
    rw [hread] at hok
    cases hok
  | ok read =>
    obtain ⟨found, replay⟩ := read
    have hkept {disk₁ : FileSystem} (halters : Alters here [name, temporaryName name] disk disk₁)
        (hopens : FileOpensTo disk₁ here name replay.pending.toList)
        (hthere : disk.entry? (here ++ [name]) ≠ none → disk₁.entry? (here ++ [name]) ≠ none) :
        disk.Saved disk₁ path readPending (Unscannable queueFormat) [] := by
      have hnames := h.isFilePath.names.keeps halters.keeps
      refine h.saved_of_log hempty (fun hok => ?_) fun ⟨e, hscan⟩ => ?_
      · rw [hread] at hok
        cases hok
        rcases hopens with ⟨hnew, -⟩ | ⟨image', replay', hfile, ⟨found', hscan, hreplay⟩, hsame⟩
        · refine .inl ⟨by simpa [hnew] using hthere, ?_⟩
          rw [← Bool.not_eq_true, hnames.exists_iff]
          simp [hnew]
        · exact .inr ⟨image', found', replay', hnames.readAll h.fits hfile,
            readImage_eq_ok_iff.2 ⟨hscan, hreplay⟩, hsame⟩
      · obtain ⟨hok, -⟩ := readImage_eq_ok_iff.1 hread
        rw [hscan] at hok
        cases hok
    rcases openFile_of_readable h hread options with
      ⟨log, disk₁, image', hrun, hlog, htrimmed, halters, -⟩ |
        ⟨e, disk₁, hrun, halters, hopens, hthere, -⟩
    · rw [hrun]
      refine ⟨hkept halters (.of_trimmed htrimmed hlog.hasFile) fun _ => ?_, halters⟩
      obtain ⟨n, hentry, -⟩ := hlog.hasFile
      simp [hentry]
    · rw [hrun]
      exact ⟨hkept halters hopens hthere, halters⟩

/-- **Opening a history** saves what its file said. -/
theorem History.saved_openFile (h : disk.Content path here name image) (options : StoreOptions) :
    disk.Saved (outcome (openFile path options) disk).2 path readEntries (Unscannable historyFormat)
        [] ∧
      Alters here [name] disk (outcome (openFile path options) disk).2 := by
  have hempty : replayHistory [] = .ok [] := rfl
  simp only [outcome]
  cases hread : readImage historyFormat replayHistory image with
  | error e =>
    obtain ⟨disk₁, hrun, halters, hstays⟩ := openFile_of_unreadable h hread options
    rw [hrun]
    refine ⟨h.saved_of_log hempty (fun hok => ?_) hstays, halters⟩
    rw [hread] at hok
    cases hok
  | ok read =>
    obtain ⟨found, entries⟩ := read
    obtain ⟨history, disk₁, hrun, ⟨n, hentry, log, image', -, -, hheld, found', hscan, -, hreplay⟩, -,
      halters⟩ := openFile_of_readable h hread options
    rw [hrun]
    refine ⟨h.saved_of_log hempty (fun hok => ?_) fun ⟨e, hscan⟩ => ?_, halters⟩
    · rw [hread] at hok
      cases hok
      exact .inr ⟨image', found', entries,
        (h.isFilePath.names.keeps halters.keeps).readAll h.fits ⟨n, hentry, hheld.bytes⟩,
        readImage_eq_ok_iff.2 ⟨hscan, hreplay⟩, rfl⟩
    · obtain ⟨hok, -⟩ := readImage_eq_ok_iff.1 hread
      rw [hscan] at hok
      cases hok

/-- **Opening a state store** saves what its file said. -/
theorem StateStore.saved_openFile (h : disk.Content path here name image) (fold : Fold) :
    disk.Saved (outcome (openFile path fold) disk).2 path Snapshot.decode Undecodable
        ⟨fold.initial, 0⟩ ∧
      Alters here [name, temporaryName name] disk (outcome (openFile path fold) disk).2 := by
  have hsame {disk₁ : FileSystem} (halters : Alters here [temporaryName name] disk disk₁) :
      disk.Saved disk₁ path Snapshot.decode Undecodable ⟨fold.initial, 0⟩ ∧
        Alters here [name, temporaryName name] disk disk₁ :=
    ⟨h.saved_of_alters halters (name_not_mem_temporary name), halters.mono (by simp)⟩
  simp only [outcome]
  rcases h.bytes with ⟨hnew, -⟩ | hfile
  · rcases openFile_of_missing h.isFilePath h.tidy h.fits hnew fold with
      ⟨disk₁, hrun, ⟨n, image', hentry, hbytes, hdecode⟩, halters⟩ | ⟨e, disk₁, hrun, halters, -⟩
    · rw [hrun]
      have hnothing {image₀ : Bytes} (hread : disk.readAll path = .ok image₀) : False := by
        obtain ⟨⟨m, hthere, -⟩, -⟩ := h.readAll_iff.1 hread
        rw [hnew] at hthere
        cases hthere
      refine ⟨⟨fun hread _ => (hnothing hread).elim, fun _ => .inr ⟨image', ?_, hdecode⟩,
        fun hread _ => (hnothing hread).elim⟩, halters⟩
      exact (h.isFilePath.names.keeps halters.keeps).readAll h.fits ⟨n, hentry, hbytes⟩
    · rw [hrun]
      exact hsame halters
  · cases hread : Snapshot.decode image with
    | error e =>
      obtain ⟨e', disk₁, hrun, halters, -⟩ := openFile_of_unreadable h hfile hread fold
      rw [hrun]
      exact hsame halters
    | ok snapshot =>
      rcases openFile_of_readable h hfile hread fold with ⟨disk₁, hrun, halters⟩ | ⟨e, hrun, -⟩
      · rw [hrun]
        exact hsame halters
      · rw [hrun]
        exact hsame (.refl h.tidy _)

/-! ## Opening a directory -/

namespace DataDirectory

/-- **Nothing is lost that the three store files of a directory said.** -/
structure Saves (disk disk' : FileSystem) (path : String) (fold : Fold) : Prop where
  queue : disk.Saved disk' (queuePath path) Queue.readPending (Unscannable queueFormat) []
  history : disk.Saved disk' (historyPath path) History.readEntries (Unscannable historyFormat) []
  state : disk.Saved disk' (statePath path) Snapshot.decode Undecodable ⟨fold.initial, 0⟩

variable {queue history state : Bytes} {fold : Fold}

theorem Saves.trans (h : Saves disk disk' path fold) (h' : Saves disk' disk'' path fold) :
    Saves disk disk'' path fold :=
  ⟨h.queue.trans h'.queue, h.history.trans h'.history, h.state.trans h'.state⟩

theorem Files.alters (h : Files disk path here queue history state) {touched : List String}
    (halters : Alters here touched disk disk')
    (hnames : ∀ name ∈ [queueFile, historyFile, stateFile], name ∉ touched) :
    Files disk' path here queue history state :=
  ⟨h.fits, h.leads.keeps halters.keeps, h.queue.alters halters (hnames _ (by simp)),
    h.history.alters halters (hnames _ (by simp)), h.state.alters halters (hnames _ (by simp))⟩

theorem Files.saves (h : Files disk path here queue history state) {touched : List String}
    (halters : Alters here touched disk disk')
    (hnames : ∀ name ∈ [queueFile, historyFile, stateFile], name ∉ touched) :
    Saves disk disk' path fold :=
  ⟨h.queue.saved_of_alters halters (hnames _ (by simp)),
    h.history.saved_of_alters halters (hnames _ (by simp)),
    h.state.saved_of_alters halters (hnames _ (by simp))⟩

theorem Files.saves_openQueue (h : Files disk path here queue history state) (options : StoreOptions)
    (fold : Fold) :
    Saves disk (outcome (Queue.openFile (queuePath path) options) disk).2 path fold := by
  obtain ⟨hsaved, halters⟩ := Queue.saved_openFile h.queue options
  exact ⟨hsaved, h.history.saved_of_alters halters (by decide),
    h.state.saved_of_alters halters (by decide)⟩

theorem Files.saves_openHistory (h : Files disk path here queue history state)
    (options : StoreOptions) (fold : Fold) :
    Saves disk (outcome (History.openFile (historyPath path) options) disk).2 path fold := by
  obtain ⟨hsaved, halters⟩ := History.saved_openFile h.history options
  exact ⟨h.queue.saved_of_alters halters (by decide), hsaved,
    h.state.saved_of_alters halters (by decide)⟩

theorem Files.saves_openState (h : Files disk path here queue history state) (fold : Fold) :
    Saves disk (outcome (StateStore.openFile (statePath path) fold) disk).2 path fold := by
  obtain ⟨hsaved, halters⟩ := StateStore.saved_openFile h.state fold
  exact ⟨h.queue.saved_of_alters halters (by decide), h.history.saved_of_alters halters (by decide),
    hsaved⟩

end DataDirectory

section Directories

open DataDirectory

variable {queue history state : Bytes}

/-- **Opening the stores of a directory** saves what its files said, however far it gets. -/
theorem FileStores.saves_openIn (h : Files disk path here queue history state) (lock : Entry)
    (options : StoreOptions) (fold : Fold) :
    Saves disk (outcome (openIn ⟨path, lock⟩ options fold) disk).2 path fold := by
  have hqueue := h.saves_openQueue options fold
  simp only [outcome, openIn_eq] at hqueue ⊢
  -- The files that one opening leaves are those the next one starts from.
  cases hrun : Queue.openFile (queuePath path) options disk with
  | error e disk₁ =>
    rw [hrun] at hqueue
    exact hqueue
  | ok opened disk₁ =>
    rw [hrun] at hqueue
    obtain ⟨-, -, log, image, -, -, hlog, -, halters, -⟩ := Queue.openFile_inv h.queue hrun
    have h₁ : Files disk₁ path here image history state :=
      ⟨h.fits, h.leads.keeps halters.keeps, h.queue.withFile halters hlog.hasFile,
        h.history.alters halters (by decide), h.state.alters halters (by decide)⟩
    have hhistory := h₁.saves_openHistory options fold
    simp only [outcome] at hhistory
    dsimp only at hqueue ⊢
    cases hrun' : History.openFile (historyPath path) options disk₁ with
    | error e disk₂ =>
      rw [hrun'] at hhistory
      exact hqueue.trans hhistory
    | ok opened' disk₂ =>
      rw [hrun'] at hhistory
      obtain ⟨-, entries, -, ⟨n, hentry, log', image', -, -, hheld, -⟩, halters'⟩ :=
        History.openFile_inv h₁.history hrun'
      have h₂ : Files disk₂ path here image image' state :=
        ⟨h.fits, h₁.leads.keeps halters'.keeps, h₁.queue.alters halters' (by decide),
          h₁.history.withFile halters' ⟨n, hentry, hheld.bytes⟩, h₁.state.alters halters' (by decide)⟩
      have hstate := h₂.saves_openState fold
      simp only [outcome] at hstate
      dsimp only at hhistory ⊢
      cases hrun'' : StateStore.openFile (statePath path) fold disk₂ with
      | error e disk₃ =>
        rw [hrun''] at hstate
        exact (hqueue.trans hhistory).trans hstate
      | ok opened'' disk₃ =>
        rw [hrun''] at hstate
        exact (hqueue.trans hhistory).trans hstate

end Directories

end Replica
