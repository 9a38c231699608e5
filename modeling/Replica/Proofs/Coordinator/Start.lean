/-
Starts that fail.

A start takes the lock of the data directory, opens its three stores and starts the
modules one after another (`Coordinator.start`; a bench starts its members in the same way,
`Workbench.bringUp_is_start`). It may fail at each point, and by then the stores before it
have been opened and changed their files. Each store saves what its files said
(`FileStores.saves_openIn`), the lock is given back (`FileStores.Taken.release`), and
modules that only make calls through their handle cannot change a store: messages are not
accepted yet, and of the other calls only taking a message changes anything
(`Coordinator.Asked.stores`). So a start that fails loses nothing, and one that failed in a
module can be made again with other modules (`failed_start_saves`).
-/
import Mathlib.Control.Monad.Basic
import Replica.Policy.Recording
import Replica.Proofs.Strategy
import Replica.Proofs.Coordinator.Closing
import Replica.Proofs.Coordinator.LockFile
import Replica.Proofs.Coordinator.Saving

namespace Replica

open FileSystem DataDirectory

/-! ## Taking the lock and giving it back -/

namespace DataDirectory

variable {disk disk' disk₁ disk₂ : FileSystem} {path : String} {here : Place}
  {directory : DataDirectory} {lock : Entry} {locked : List Entry}

theorem locked_openWrite (file : String) (disk : FileSystem) :
    (outcome (FileSystem.openWrite file) disk).2.locked = disk.locked := by
  have haside : disk.Aside [] file := fun there name slash _ => by simp
  exact (spares_openWrite haside).locked

/-- **A lock that is held** by whoever took it while `locked` were held by others. -/
structure Holds (disk : FileSystem) (here : Place) (lock : Entry) (locked : List Entry) : Prop where
  entry : disk.entry? (here ++ [lockFile]) = some lock
  ne_directory : lock ≠ .directory
  free : lock ∉ locked
  locked : disk.locked = lock :: locked

theorem takeLock_inv (hfits : Route.Fits path) (hleads : disk.Leads path.toList here) :
    (∀ {directory disk'}, takeLock path disk = .ok directory disk' →
      Holds disk' here directory.lock disk.locked ∧ Route.Fits (Path.join path lockFile)) ∧
    ∀ {e disk'}, takeLock path disk = .error e disk' → disk'.locked = disk.locked := by
  have hlocked := locked_openWrite (Path.join path lockFile) disk
  simp only [outcome] at hlocked
  constructor
  · intro directory disk' hrun
    obtain ⟨hjoin, hheld, -⟩ := takeLock_ok hfits hleads hrun
    rw [takeLock] at hrun
    split at hrun
    · cases hrun
    · rename_i lock disk₁ hopen
      rw [hopen] at hlocked
      dsimp only at hlocked
      by_cases htaken : lock ∈ disk₁.locked
      · simp only [tryLock, htaken, if_true, Bool.false_eq_true, if_false] at hrun
        cases hrun
      · simp only [tryLock, htaken, if_true, if_false] at hrun
        cases hrun
        rw [hlocked] at htaken
        exact ⟨⟨hheld.entry, hheld.ne_directory, htaken, by rw [← hlocked]⟩, hjoin⟩
  · intro e disk' hrun
    rw [takeLock] at hrun
    split at hrun
    · rename_i hopen
      cases hrun
      rw [hopen] at hlocked
      exact hlocked
    · rename_i lock disk₁ hopen
      rw [hopen] at hlocked
      dsimp only at hlocked
      by_cases htaken : lock ∈ disk₁.locked
      · simp only [tryLock, htaken, if_true, Bool.false_eq_true, if_false] at hrun
        cases hrun
        exact hlocked
      · simp only [tryLock, htaken, if_true, if_false] at hrun
        cases hrun

theorem Holds.spares (h : Holds disk here lock locked) (hspares : Spares (here ++ [lockFile]) disk disk') :
    Holds disk' here lock locked :=
  ⟨by rw [hspares.entry, h.entry], h.ne_directory, h.free, by rw [hspares.locked, h.locked]⟩

theorem Holds.unlock (h : Holds disk here lock locked) : (disk.unlock lock).locked = locked := by
  show disk.locked.filter (· ≠ lock) = locked
  rw [h.locked, List.filter_cons_of_neg (by simp), List.filter_eq_self]
  intro other hother
  simp only [decide_eq_true_eq]
  rintro rfl
  exact h.free hother

/-- A lock that has been given back can be taken again, which changes nothing else. -/
theorem Holds.takeLock_again (h : Holds disk here lock locked)
    (hfits : Route.Fits (Path.join path lockFile)) (hne : path ≠ "")
    (hleads : disk.Leads path.toList here) :
    takeLock path (disk.unlock lock) = .ok ⟨path, lock⟩ disk := by
  have hleads' : (disk.unlock lock).Leads path.toList here := hleads.keeps ⟨id, rfl⟩
  have hentry : FileSystem.entry? (disk.unlock lock) (here ++ [lockFile]) = some lock := h.entry
  have hopen : FileSystem.openWrite (Path.join path lockFile) (disk.unlock lock) =
      .ok lock (disk.unlock lock) := by
    rw [(isFilePath_join hne isFileName_lockFile hleads').names.openWrite hfits, hentry]
    cases lock with
    | directory => exact absurd rfl h.ne_directory
    | file | full => rfl
  rw [takeLock, hopen]
  simp only [tryLock, h.unlock, h.free, if_true, if_false]
  rw [← h.locked]
  rfl

/-- **The lock of a directory can be taken.** -/
def IsFree (disk : FileSystem) (path : String) : Prop :=
  ∃ directory disk', DataDirectory.open path false disk = .ok directory disk'

end DataDirectory

/-! ## Opening a directory -/

namespace FileStores

variable {disk disk' : FileSystem} {path : String} {here : Place} {config : Config} {fold : Fold}
  {stores : FileStores} {queue history state : Bytes}

theorem sparing_openIn (hne : path ≠ "") (lock : Entry) (options : StoreOptions) (fold : Fold) :
    Sparing path here (here ++ [lockFile]) id (openIn ⟨path, lock⟩ options fold) :=
  .bind (Queue.sparing_openFileWith (clear_file hne (by simp)) none options) fun _ =>
    .bind (History.sparing_openFile (clear_file hne (by simp)) options) fun _ =>
      .bind (StateStore.sparing_openFileWith (clear_file hne (by simp)) none fold) fun _ =>
        sparing_get fun _ => sparing_pure _

/-- **A directory whose lock has been taken**, and what has been done to it since: its files still say
what they said. -/
structure Taken (disk disk' : FileSystem) (path : String) (here : Place) (fold : Fold) (lock : Entry) :
    Prop where
  holds : Holds disk' here lock disk.locked
  saves : Saves disk disk' path fold
  leads : disk'.Leads path.toList here
  fits : Route.Fits path
  fitsLock : Route.Fits (Path.join path lockFile)

theorem Taken.release {lock : Entry} (h : Taken disk disk' path here fold lock) :
    Saves disk (disk'.unlock lock) path fold ∧ (disk'.unlock lock).locked = disk.locked ∧
      IsFree (disk'.unlock lock) path := by
  have hleads : (disk'.unlock lock).Leads path.toList here := h.leads.keeps ⟨id, rfl⟩
  refine ⟨⟨h.saves.queue.unlock lock, h.saves.history.unlock lock, h.saves.state.unlock lock⟩,
    h.holds.unlock, ?_⟩
  have hagain := h.holds.takeLock_again h.fitsLock h.fits.2.1 h.leads
  rw [← open_of_isDirectory ((isDirectory_iff_leads h.fits).2 ⟨here, hleads⟩)] at hagain
  exact ⟨_, _, hagain⟩

/-- **What opening a directory comes to**: the lock is refused, a store does not open, or all three
do. -/
inductive Opening (config : Config) (fold : Fold) (disk : FileSystem) (here : Place) :
    EStateM.Result StoreError FileSystem FileStores → Prop
  | refused {e : StoreError} {disk' : FileSystem}
      (hlock : takeLock config.dataDirectory disk = .error e disk')
      (halters : Alters here [lockFile] disk disk') (hlocked : disk'.locked = disk.locked) :
      Opening config fold disk here (.error e disk')
  | failed {lock : Entry} {e : StoreError} {disk' : FileSystem}
      (htaken : Taken disk disk' config.dataDirectory here fold lock) :
      Opening config fold disk here (.error e (disk'.unlock lock))
  | opened {lock : Entry} {stores : FileStores} {disk₁ : FileSystem}
      (halters : Alters here [lockFile] disk disk₁)
      (hopen : openIn ⟨config.dataDirectory, lock⟩ config.stores fold disk₁ = .ok stores stores.disk)
      (htaken : Taken disk stores.disk config.dataDirectory here fold lock) :
      Opening config fold disk here (.ok stores stores.disk)

theorem opening_of_files (config : Config) (fold : Fold)
    (h : Files disk config.dataDirectory here queue history state) :
    Opening config fold disk here (FileStores.open config fold disk) := by
  obtain ⟨htaken, hrefused⟩ := takeLock_inv h.fits h.leads
  rw [open_eq, open_of_isDirectory ((isDirectory_iff_leads h.fits).2 ⟨here, h.leads⟩)]
  rcases takeLock_cases h.fits.2.1 h.leads h.queue.tidy with
    ⟨lock, disk₁, hlock, halters⟩ | ⟨e, disk₁, hlock, halters⟩
  · have h₁ := h.alters halters (by decide)
    have hsaves : Saves disk disk₁ config.dataDirectory fold := h.saves halters (by decide)
    obtain ⟨hheld, hfits⟩ := htaken hlock
    have hsaved := saves_openIn h₁ lock config.stores fold
    have hspares := sparing_openIn h.fits.2.1 lock config.stores fold disk₁ h₁.leads
    simp only [outcome, id] at hsaved hspares
    rw [hlock]
    dsimp only
    cases hopen : openIn ⟨config.dataDirectory, lock⟩ config.stores fold disk₁ with
    | error e disk₂ =>
      rw [hopen] at hsaved hspares
      exact .failed ⟨hheld.spares hspares, hsaves.trans hsaved, h₁.leads.keeps hspares.keeps, h.fits,
        hfits⟩
    | ok stores disk₂ =>
      rw [hopen] at hsaved hspares
      obtain ⟨rfl, -⟩ := openIn_inv h₁ hopen
      exact .opened halters hopen ⟨hheld.spares hspares, hsaves.trans hsaved,
        h₁.leads.keeps hspares.keeps, h.fits, hfits⟩
  · rw [hlock]
    exact .refused hlock halters (hrefused hlock)

/-- **A directory that was not opened** still says what it said, and its lock is as free as it was. -/
theorem open_error (h : Files disk config.dataDirectory here queue history state) {e : StoreError}
    (hrun : FileStores.open config fold disk = .error e disk') :
    Saves disk disk' config.dataDirectory fold ∧ disk'.locked = disk.locked ∧
      (IsFree disk config.dataDirectory → IsFree disk' config.dataDirectory) := by
  have hopening := opening_of_files config fold h
  rw [hrun] at hopening
  cases hopening with
  | refused hlock halters hlocked =>
    refine ⟨h.saves halters (by decide), hlocked, fun ⟨directory, disk₁, hfree⟩ => ?_⟩
    rw [open_of_isDirectory ((isDirectory_iff_leads h.fits).2 ⟨here, h.leads⟩), hlock] at hfree
    cases hfree
  | failed htaken =>
    obtain ⟨hsaves, hlocked, hfree⟩ := htaken.release
    exact ⟨hsaves, hlocked, fun _ => hfree⟩

end FileStores

/-! ## Starting -/

/-- **Starts a coordinator**: opens the stores of its directory and starts its modules in order. A
coordinator whose modules did not all start is let go, and with it the lock. -/
def Coordinator.start {π ω : Type} (config : Config) (fold : Fold) (policy : π)
    (modules : List (Strategy (Coordinator FileStores π × ω))) :
    EStateM CoordinatorError (ω × FileSystem) (Coordinator FileStores π) := fun (rest, disk) =>
  match FileStores.open config fold disk with
  | .error e disk => .error (.store e) (rest, disk)
  | .ok stores _ =>
    match (Host.beside FileStores π ω).bringUp modules ({ stores, policy }, rest) with
    | (.error e, c, rest) => .error e (rest, c.release.stores.disk)
    | (.ok (), c, rest) => .ok c (rest, c.stores.disk)

/-! ## What a directory says -/

/-- **What a file says**: what its bytes say, or what a new one says if it is missing. -/
def FileSystem.Tells {α : Type} (disk : FileSystem) (path : String) (read : Bytes → Except StoreError α)
    (fresh a : α) : Prop :=
  (disk.exists path = false ∧ a = fresh) ∨ ∃ image, disk.readAll path = .ok image ∧ read image = .ok a

/-- **What the three store files of a directory say.** -/
structure DataDirectory.Tells (disk : FileSystem) (path : String) (fold : Fold)
    (pending entries : List Message) (snapshot : Snapshot) : Prop where
  queue : disk.Tells (queuePath path) Queue.readPending [] pending
  history : disk.Tells (historyPath path) History.readEntries [] entries
  state : disk.Tells (statePath path) Snapshot.decode ⟨fold.initial, 0⟩ snapshot

/-- **What stores hold.** -/
structure FileStores.Carries (stores : FileStores) (pending entries : List Message)
    (snapshot : Snapshot) : Prop where
  queue : stores.queue.pending = pending
  history : stores.history.stack = entries.reverse
  state : stores.state.snapshot = snapshot

section Saying

variable {α : Type} {disk disk' : FileSystem} {path name : String} {here : Place}
  {image queue history state : Bytes} {config : Config} {fold : Fold} {lock : Entry}
  {locked : List Entry} {threshold : Nat} {pending entries : List Message} {snapshot : Snapshot}
  {stores : FileStores}

theorem FileSystem.Content.tells {read : Bytes → Except StoreError α} {fresh a : α}
    (h : disk.Content path here name image)
    (hsaid : disk.entry? (here ++ [name]) = none ∧ a = fresh ∨
      disk.HasFile here name image ∧ read image = .ok a) : disk.Tells path read fresh a := by
  rcases hsaid with ⟨hnew, ha⟩ | ⟨hfile, hread⟩
  · exact .inl ⟨h.not_exists hnew, ha⟩
  · exact .inr ⟨image, h.readAll_iff.2 ⟨hfile, rfl⟩, hread⟩

theorem FileSystem.Content.tells_of_read {read : Bytes → Except StoreError α} {fresh a : α}
    (h : disk.Content path here name image) (hempty : read [] = .ok fresh)
    (hread : read image = .ok a) : disk.Tells path read fresh a := by
  refine h.tells (h.bytes.imp (fun ⟨hnew, hnone⟩ => ⟨hnew, ?_⟩) fun hfile => ⟨hfile, hread⟩)
  rw [hnone, hempty] at hread
  exact (Except.ok.inj hread).symm

namespace FileStores

theorem tells_of_openIn {touched : List String} {disk₁ : FileSystem} {options : StoreOptions}
    (h : Files disk path here queue history state) (halters : Alters here touched disk disk₁)
    (hnames : ∀ name ∈ [queueFile, historyFile, stateFile], name ∉ touched)
    (hrun : openIn ⟨path, lock⟩ options fold disk₁ = .ok stores disk') :
    ∃ pending entries snapshot, Tells disk path fold pending entries snapshot ∧
      stores.Opened path here options.compactThreshold pending entries snapshot := by
  obtain ⟨-, found, replay, found', entries, snapshot, hread, hread', hsaid, hopened⟩ :=
    openIn_inv (h.alters halters hnames) hrun
  refine ⟨_, entries, snapshot, ⟨?_, ?_, h.state.tells ?_⟩, hopened⟩
  · exact h.queue.tells_of_read (readLogAs_nil (rfl : replayQueue [] = .ok {}))
      (readLogAs_eq_ok_iff.2 ⟨found, replay, hread, rfl⟩)
  · exact h.history.tells_of_read (readLogAs_nil (rfl : replayHistory [] = .ok []))
      (readLogAs_eq_ok_iff.2 ⟨found', entries, hread', rfl⟩)
  · rw [← halters.entry (hnames stateFile (by simp))]
    refine hsaid.imp id fun ⟨⟨n, hentry, _⟩, hdecode⟩ => ⟨?_, hdecode⟩
    rcases h.state.bytes with ⟨hnew, -⟩ | hfile
    · rw [halters.entry (hnames stateFile (by simp)), hnew] at hentry
      cases hentry
    · exact hfile

theorem Opened.carries (h : stores.Opened path here threshold pending entries snapshot) :
    stores.Carries pending entries snapshot := by
  obtain ⟨n, -, log, image, hhistory, -⟩ := h.inDirectory.history
  exact ⟨h.pendingEq, by rw [hhistory, History.ofEntries], h.snapshotEq⟩

theorem carries_of_openIn {options : StoreOptions} {found found' : Scan} {replay : QueueReplay}
    (h : Files disk path here queue history state)
    (hread : readImage queueFormat replayQueue queue = .ok (found, replay))
    (hread' : readImage historyFormat replayHistory history = .ok (found', entries))
    (hfile : disk.HasFile here stateFile state) (hdecode : Snapshot.decode state = .ok snapshot)
    (hrun : openIn ⟨path, lock⟩ options fold disk = .ok stores disk') :
    stores.disk = disk' ∧ stores.Carries replay.pending.toList entries snapshot := by
  obtain ⟨hdisk, _, _, _, _, _, hqueue, hhistory, hstate, hopened⟩ := openIn_inv h hrun
  rw [hread] at hqueue
  rw [hread'] at hhistory
  cases hqueue
  cases hhistory
  refine ⟨hdisk, ?_⟩
  rcases hstate with ⟨hnew, -⟩ | ⟨-, hsnapshot⟩
  · obtain ⟨n, hentry, -⟩ := hfile
    rw [hnew] at hentry
    cases hentry
  · rw [hdecode] at hsnapshot
    cases hsnapshot
    exact hopened.carries

/-- **A directory that was opened and let go opens again**, on what it held: its queue log has been
trimmed already, and no temporary file is in the way. -/
theorem Opened.reopens (h : stores.Opened path here threshold pending entries snapshot)
    (htaken : Taken disk stores.disk path here fold lock) (hqueue : Route.Fits (queuePath path))
    (hhistory : Route.Fits (historyPath path)) {config : Config} (hpath : config.dataDirectory = path)
    (hroom : Route.Fits (Path.temporary (queuePath path)) ∨
      threshold ≤ config.stores.compactThreshold) (fold' : Fold) :
    ∃ stores', FileStores.open config fold' (stores.disk.unlock lock) = .ok stores' stores'.disk ∧
      stores'.Carries pending entries snapshot := by
  obtain ⟨queue, history, state, found, replay, found', hfiles, -, -, hstate, hread, -, hpending,
    hconsumed, hread', -, hdecode⟩ := h.files htaken.fits hqueue hhistory
  have hopens : ∃ opened disk₁, Queue.openFile (queuePath path) config.stores stores.disk =
      .ok opened disk₁ := by
    rcases Queue.openFile_of_readable hfiles.queue hread config.stores with
      ⟨log, disk₁, image, hopen, -⟩ | ⟨e, disk₁, -, -, -, -, ⟨hfits, hdirectory⟩ | ⟨hlong, hmany⟩⟩
    · exact ⟨_, disk₁, hopen⟩
    · rw [h.temporary hfits] at hdirectory
      cases hdirectory
    · rcases hroom with hfits | hle
      · exact absurd hfits hlong
      · omega
  obtain ⟨opened, disk₁, hopen⟩ := hopens
  have hstores : ∃ stores' disk', openIn ⟨path, lock⟩ config.stores fold' stores.disk =
      .ok stores' disk' :=
    openIn_of_openQueue hfiles hopen hread' hstate hdecode fun hfits => by
      simp [h.inDirectory.state.temporary hfits]
  obtain ⟨stores', disk', hrun⟩ := hstores
  obtain ⟨rfl, hcarries⟩ := carries_of_openIn hfiles hread hread' hstate hdecode hrun
  rw [hpending] at hcarries
  refine ⟨stores', ?_, hcarries⟩
  have hleads : (stores.disk.unlock lock).Leads path.toList here := htaken.leads.keeps ⟨id, rfl⟩
  rw [open_eq, hpath, open_of_isDirectory ((isDirectory_iff_leads htaken.fits).2 ⟨here, hleads⟩),
    htaken.holds.takeLock_again htaken.fitsLock htaken.fits.2.1 htaken.leads]
  dsimp only
  rw [hrun]

end FileStores

end Saying

/-! ## Failing and starting again -/

section Starts

variable {π ω : Type} [Policy π] {config : Config} {fold : Fold} {policy : π} {rest rest' : ω}
  {disk disk' : FileSystem} {modules : List (Strategy (Coordinator FileStores π × ω))}
  {stores : FileStores}

/-- **A start on a directory that opens**, with modules that keep to themselves and do not fail. -/
theorem start_of_open (hopen : FileStores.open config fold disk = .ok stores disk')
    (hdiscreet : ∀ m ∈ modules, m.IsDiscreet) (hstarts : ∀ m ∈ modules, ∀ w, (m.start w).1 = .ok ()) :
    ∃ c rest', Coordinator.start config fold policy modules (rest, disk) = .ok c (rest', stores.disk) ∧
      c.stores = stores := by
  have hok := Strategy.startAll_ok hstarts ({ stores, policy }, rest)
  have hasked := Strategy.asked_startAll hdiscreet ({ stores, policy }, rest)
  obtain ⟨hstores, -⟩ := hasked.stores rfl
  rw [Coordinator.start, hopen]
  dsimp only
  rw [Host.bringUp]
  cases hrun : Strategy.startAll modules ({ stores, policy }, rest) with
  | mk result w =>
    rw [hrun] at hok hstores
    dsimp only at hok hstores
    subst hok
    have hsame : (w.1.advance .starting .running).stores = stores := by
      rw [← hstores, Coordinator.advance]
      split <;> rfl
    refine ⟨w.1.advance .starting .running, w.2, ?_, hsame⟩
    show EStateM.Result.ok _ (_, (w.1.advance .starting .running).stores.disk) = _
    rw [hsame]
    rfl

/-- **How a start fails**: the directory does not open, or a module does not start and the stores are
let go as they were opened. -/
theorem start_error {here : Place} {queue history state : Bytes} {e : CoordinatorError}
    (h : Files disk config.dataDirectory here queue history state)
    (hdiscreet : ∀ m ∈ modules, m.IsDiscreet)
    (hrun : Coordinator.start config fold policy modules (rest, disk) = .error e (rest', disk')) :
    (∃ e', e = .store e' ∧ FileStores.open config fold disk = .error e' disk') ∨
      ∃ lock stores disk₁, disk' = stores.disk.unlock lock ∧ Alters here [lockFile] disk disk₁ ∧
        FileStores.openIn ⟨config.dataDirectory, lock⟩ config.stores fold disk₁ =
          .ok stores stores.disk ∧
        FileStores.Taken disk stores.disk config.dataDirectory here fold lock := by
  have hopening := FileStores.opening_of_files config fold h
  rw [Coordinator.start] at hrun
  cases hopen : FileStores.open config fold disk with
  | error e₁ disk₁ =>
    rw [hopen] at hrun
    cases hrun
    exact .inl ⟨e₁, rfl, rfl⟩
  | ok stores disk₁ =>
    rw [hopen] at hrun hopening
    cases hopening with
    | @opened lock _ disk₀ halters hopenIn htaken =>
      have hasked := Strategy.asked_startAll hdiscreet ({ stores, policy }, rest)
      obtain ⟨hstores, -⟩ := hasked.stores rfl
      dsimp only at hrun
      rw [Host.bringUp] at hrun
      cases hstart : Strategy.startAll modules ({ stores, policy }, rest) with
      | mk result w =>
        rw [hstart] at hrun hstores
        cases result with
        | ok a => cases hrun
        | error e₁ =>
          cases hrun
          refine .inr ⟨lock, stores, disk₀, ?_, halters, hopenIn, htaken⟩
          show (MessageStores.release w.1.stores).disk = _
          rw [hstores, (FileStores.release_eq (FileStores.directory_of_openIn hopenIn)).1]
          rfl

/-- **A start that fails** saves what the three files said and leaves the lock as free as it was. -/
theorem saves_of_start_error {here : Place} {queue history state : Bytes} {e : CoordinatorError}
    (h : Files disk config.dataDirectory here queue history state)
    (hdiscreet : ∀ m ∈ modules, m.IsDiscreet)
    (hrun : Coordinator.start config fold policy modules (rest, disk) = .error e (rest', disk')) :
    Saves disk disk' config.dataDirectory fold ∧ disk'.locked = disk.locked ∧
      (IsFree disk config.dataDirectory → IsFree disk' config.dataDirectory) := by
  rcases start_error h hdiscreet hrun with
    ⟨e', -, hopen⟩ | ⟨lock, stores, disk₁, rfl, -, -, htaken⟩
  · exact FileStores.open_error h hopen
  · obtain ⟨hsaves, hlocked, hfree⟩ := htaken.release
    exact ⟨hsaves, hlocked, fun _ => hfree⟩

/-- **A start that fails loses nothing.** In a directory in which each store file is a regular file or
missing, whatever bytes the files hold, and with modules that keep their handles to themselves and take
no message: a start that fails at any point saves what the three files said, leaves the locks of
others, and leaves the lock of the directory free if it was. If a module failed, a later start with
modules that do not fail succeeds on what the files said before the first. The limit at which it
compacts the queue log may be any, unless the path of the temporary file is too long, and else any
that is not below the first. -/
theorem failed_start_saves {e : CoordinatorError}
    (htidy : ∀ here, disk.Leads config.dataDirectory.toList here → disk.Tidy here)
    (hdir : disk.isDirectory config.dataDirectory = true)
    (hqueue : disk.Ordinary (queuePath config.dataDirectory))
    (hhistory : disk.Ordinary (historyPath config.dataDirectory))
    (hstate : disk.Ordinary (statePath config.dataDirectory))
    (hdiscreet : ∀ m ∈ modules, m.IsDiscreet)
    (hrun : Coordinator.start config fold policy modules (rest, disk) = .error e (rest', disk')) :
    Saves disk disk' config.dataDirectory fold ∧ disk'.locked = disk.locked ∧
      (IsFree disk config.dataDirectory → IsFree disk' config.dataDirectory) ∧
      ∀ name text, e = .strategyStart name text → ∃ pending entries snapshot,
        Tells disk config.dataDirectory fold pending entries snapshot ∧
        ∀ {π' ω' : Type} [Policy π'] (config' : Config) (fold' : Fold) (policy' : π')
          (modules' : List (Strategy (Coordinator FileStores π' × ω'))) (rest₁ : ω'),
          config'.dataDirectory = config.dataDirectory →
          (Route.Fits (Path.temporary (queuePath config.dataDirectory)) ∨
            config.stores.compactThreshold ≤ config'.stores.compactThreshold) →
          (∀ m ∈ modules', m.IsDiscreet) → (∀ m ∈ modules', ∀ w, (m.start w).1 = .ok ()) →
          ∃ c rest₂ disk₂, Coordinator.start config' fold' policy' modules' (rest₁, disk') =
              .ok c (rest₂, disk₂) ∧
            c.stores.Carries pending entries snapshot := by
  obtain ⟨here, queue, history, state, hfiles⟩ := files_of_ordinary htidy hdir hqueue hhistory hstate
  obtain ⟨hsaves, hlocked, hfree⟩ := saves_of_start_error hfiles hdiscreet hrun
  refine ⟨hsaves, hlocked, hfree, fun name text hname => ?_⟩
  rcases start_error hfiles hdiscreet hrun with
    ⟨e', he, -⟩ | ⟨lock, stores, disk₁, rfl, halters, hopenIn, htaken⟩
  · rw [hname] at he
    cases he
  · obtain ⟨pending, entries, snapshot, htells, hopened⟩ :=
      FileStores.tells_of_openIn hfiles halters (by decide) hopenIn
    refine ⟨pending, entries, snapshot, htells, ?_⟩
    intro π' ω' _ config' fold' policy' modules' rest₁ hpath hroom hdiscreet' hstarts
    obtain ⟨stores', hagain, hcarries⟩ := hopened.reopens htaken hfiles.queue.fits
      hfiles.history.fits hpath hroom fold'
    obtain ⟨c, rest₂, hrun', hsame⟩ := start_of_open hagain hdiscreet' hstarts
    exact ⟨c, rest₂, _, hrun', by rwa [hsame]⟩

/-! ## A start refused by its second module -/

/-- A queue file that ends in a torn record, and no other store file. -/
def tornQueue : FileSystem where
  names := ⟨[(["data"], .directory), (["data", queueFile], .file 0)]⟩
  contents := ⟨[(0, Frame.toBytes queueFormat.magic .enqueue (Message.toBytes ⟨⟨7⟩, [1]⟩) ++ [67, 83])]⟩
  fresh := 1

/-- A module that asks for a shutdown and one that refuses to start. -/
def noisyModules : List (Strategy (Coordinator FileStores RecordingPolicy × List Event)) :=
  [{ name := "a", shutdownOnStart := true }, { name := "b", failStart := true }].map
    (RecordingModule.strategy (Seat.beside FileStores RecordingPolicy))

/-- The torn record is cut, two files are made and a module fails; the message is still pending for
the next start. -/
theorem failed_start_saves_tornQueue :
    ∃ rest disk', Coordinator.start { dataDirectory := "/data" } .sum ({} : RecordingPolicy) noisyModules
        ([], tornQueue) = .error (.strategyStart "b" "b refused to start") (rest, disk') ∧
      Saves tornQueue disk' "/data" .sum ∧ disk'.locked = [] ∧ IsFree disk' "/data" ∧
      ∃ c rest₂ disk₂, Coordinator.start { dataDirectory := "/data" } .sum ({} : RecordingPolicy)
          ([] : List (Strategy (Coordinator FileStores RecordingPolicy × List Event))) ([], disk') =
          .ok c (rest₂, disk₂) ∧
        c.stores.queue.pending = [⟨⟨7⟩, [1]⟩] := by
  have htidy : tornQueue.isTidy = true := by decide +kernel
  have hfree : IsFree tornQueue "/data" := exists_ok_of_isOk (by decide +kernel)
  obtain ⟨⟨rest, disk'⟩, hrun⟩ := @exists_error_of_outcome _ _ _
    (Coordinator.start { dataDirectory := "/data" } .sum ({} : RecordingPolicy) noisyModules)
    (([] : List Event), tornQueue) (.strategyStart "b" "b refused to start") (by decide +kernel)
  have hdiscreet : ∀ m ∈ noisyModules, m.IsDiscreet := by
    simp only [noisyModules, List.forall_mem_map]
    exact fun m _ => m.isDiscreet
  obtain ⟨hsaves, hlocked, hstays, hagain⟩ :=
    failed_start_saves (fun here _ => tidy_of_isTidy htidy here) (by decide +kernel)
      (.inr ⟨0, by decide +kernel⟩) (.inl (by decide +kernel)) (.inl (by decide +kernel)) hdiscreet hrun
  obtain ⟨pending, entries, snapshot, htells, hlater⟩ := hagain _ _ rfl
  obtain ⟨c, rest₂, disk₂, hrun', hcarries⟩ :=
    hlater { dataDirectory := "/data" } .sum ({} : RecordingPolicy)
      ([] : List (Strategy (Coordinator FileStores RecordingPolicy × List Event))) [] rfl
      (.inr (Nat.le_refl _)) (by simp) (by simp)
  have hpending : (tornQueue.readAll (queuePath "/data")).toOption.bind
      (fun image => (Queue.readPending image).toOption) = some [⟨⟨7⟩, [1]⟩] := by decide +kernel
  refine ⟨rest, disk', hrun, hsaves, hlocked, hstays hfree, c, rest₂, disk₂, hrun', ?_⟩
  rcases htells.queue with ⟨hmissing, -⟩ | ⟨image, hbytes, hread⟩
  · exact absurd hmissing (by decide +kernel)
  · rw [hbytes] at hpending
    simp only [Except.toOption, Option.bind_some, hread, Option.some.injEq] at hpending
    rw [hcarries.queue, hpending]

end Starts

end Replica
