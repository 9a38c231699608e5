/-
The three stores in their data directory.

`FileStores.InDirectory` says that the queue, the history and the state store are
open on the three files of one directory. Opening the directory establishes it,
whatever its files hold. `FileStores.DirectorySays` is what such a directory says
when nobody has it open, and what opening it gives back.
-/
import Replica.Coordinator.FileStores
import Replica.Proofs.History.File
import Replica.Proofs.Queue.File
import Replica.Proofs.State.File

namespace Replica

open FileSystem

/-! ## The names in a data directory -/

namespace DataDirectory

theorem isFileName_lockFile : IsFileName lockFile := by decide

theorem isFileName_queueFile : IsFileName queueFile := by decide

theorem isFileName_historyFile : IsFileName historyFile := by decide

theorem isFileName_stateFile : IsFileName stateFile := by decide

theorem fits_statePath {path : String} (h : Route.Fits (historyPath path)) :
    Route.Fits (statePath path) :=
  fits_join (by decide) (by decide) (by decide) (by decide) h

/-- Opens the lock file of a directory that is there, and takes its lock. -/
def takeLock (path : String) : EStateM StoreError FileSystem DataDirectory := fun disk =>
  match FileSystem.openWrite (Path.join path lockFile) disk with
  | .error e disk' => .error (.ofOs e) disk'
  | .ok lock disk' =>
    if (disk'.tryLock lock).1 then .ok ⟨path, lock⟩ (disk'.tryLock lock).2
    else .error (.directoryLocked path) (disk'.tryLock lock).2

theorem open_eq (path : String) (createIfMissing : Bool) (disk : FileSystem) :
    DataDirectory.open path createIfMissing disk =
      match ensure path createIfMissing disk with
      | .error e disk' => .error e disk'
      | .ok _ disk' => takeLock path disk' := by
  simp only [DataDirectory.open, bind, EStateM.bind, EStateM.adaptExcept, takeLock]
  cases ensure path createIfMissing disk with
  | error e disk' => rfl
  | ok a disk₁ =>
    dsimp only
    cases FileSystem.openWrite (Path.join path lockFile) disk₁ with
    | error e disk' => rfl
    | ok lock disk' =>
      simp only [get_apply, set_apply]
      cases (disk'.tryLock lock).1 <;> rfl

variable {disk disk' : FileSystem} {path : String} {here : Place} {createIfMissing : Bool}

theorem takeLock_cases (hne : path ≠ "") (hleads : disk.Leads path.toList here)
    (htidy : disk.Tidy here) :
    (∃ lock disk', takeLock path disk = .ok ⟨path, lock⟩ disk' ∧ Alters here [lockFile] disk disk') ∨
      ∃ e disk', takeLock path disk = .error e disk' ∧ Alters here [lockFile] disk disk' := by
  have hlock (lock : Entry) {disk₁ : FileSystem} (halters : Alters here [lockFile] disk disk₁) :
      Alters here [lockFile] disk (disk₁.tryLock lock).2 := by
    unfold tryLock
    split
    · exact halters
    · exact halters.trans (alters_locked halters.tidy _ _)
  have htaken {lock : Entry} {disk₁ : FileSystem} (halters : Alters here [lockFile] disk disk₁)
      (hwrite : FileSystem.openWrite (Path.join path lockFile) disk = .ok lock disk₁) :
      (∃ lock disk', takeLock path disk = .ok ⟨path, lock⟩ disk' ∧
          Alters here [lockFile] disk disk') ∨
        ∃ e disk', takeLock path disk = .error e disk' ∧ Alters here [lockFile] disk disk' := by
    rw [takeLock, hwrite]
    dsimp only
    split
    · exact .inl ⟨_, _, rfl, hlock lock halters⟩
    · exact .inr ⟨_, _, rfl, hlock lock halters⟩
  by_cases hfits : Route.Fits (Path.join path lockFile)
  · have hwrite := (isFilePath_join hne isFileName_lockFile hleads).names.openWrite hfits
    cases hentry : disk.entry? (here ++ [lockFile]) with
    | none =>
      rw [hentry] at hwrite
      exact htaken (alters_withFile htidy hentry) hwrite
    | some entry =>
      rw [hentry] at hwrite
      cases entry with
      | directory =>
        rw [takeLock, hwrite]
        exact .inr ⟨_, _, rfl, .refl htidy _⟩
      | file n => exact htaken (.refl htidy _) hwrite
      | full => exact htaken (.refl htidy _) hwrite
  · obtain ⟨e, he⟩ := openWrite_of_not_fits hfits
    rw [takeLock, he]
    exact .inr ⟨_, _, rfl, .refl htidy _⟩

theorem ensure_eq (path : String) (createIfMissing : Bool) (disk : FileSystem) :
    ensure path createIfMissing disk =
      match (if disk.exists path then .ok () disk
        else if createIfMissing then (makeDirectories path).adaptExcept .ofOs disk
        else .error (.invalidDirectory s!"{path} does not exist") disk :
          EStateM.Result StoreError FileSystem Unit) with
      | .error e disk' => .error e disk'
      | .ok _ disk' =>
        if disk'.isDirectory path then .ok () disk'
        else .error (.invalidDirectory s!"{path} is not a directory") disk' := by
  simp only [ensure, bind, EStateM.bind, get_apply]
  cases disk.exists path with
  | true =>
    simp only [Bool.not_true, Bool.false_eq_true, if_false, if_true, EStateM.bind, get_apply]
    cases disk.isDirectory path <;> rfl
  | false =>
    cases createIfMissing with
    | false => rfl
    | true =>
      simp only [Bool.not_false, if_true, Bool.false_eq_true, if_false, EStateM.bind]
      cases (makeDirectories path).adaptExcept StoreError.ofOs disk with
      | error e disk' => rfl
      | ok a disk' =>
        simp only [get_apply]
        cases disk'.isDirectory path <;> rfl

theorem ensure_of_isDirectory (h : disk.isDirectory path = true) :
    ensure path createIfMissing disk = .ok () disk := by
  have hexists : disk.exists path = true := by
    unfold isDirectory at h
    unfold FileSystem.exists
    split at h
    · rename_i hlookup
      rw [hlookup]
      rfl
    · cases h
  rw [ensure_eq, if_pos hexists]
  exact if_pos h

theorem ensure_ok {a : Unit} (h : ensure path createIfMissing disk = .ok a disk')
    (htidy : ∀ here, disk.Tidy here) :
    disk'.isDirectory path = true ∧ ∀ here, disk'.Tidy here := by
  rw [ensure_eq] at h
  split at h
  · cases h
  · rename_i disk₁ hmade
    have htidy₁ : ∀ here, disk₁.Tidy here := by
      by_cases hexists : disk.exists path = true
      · rw [if_pos hexists] at hmade
        cases hmade
        exact htidy
      · rw [if_neg hexists] at hmade
        split at hmade
        · unfold EStateM.adaptExcept at hmade
          split at hmade
          · cases hmade
          · rename_i hmake
            cases hmade
            exact tidy_makeDirectoriesFrom htidy hmake
        · cases hmade
    split at h
    · rename_i hdir
      cases h
      exact ⟨hdir, htidy₁⟩
    · cases h

end DataDirectory

namespace FileStores

open DataDirectory

variable {disk disk' : FileSystem} {path : String} {here : Place} {entries pending : List Message}
  {stores : FileStores} {options : StoreOptions} {fold : Fold} {snapshot : Snapshot}
  {directory : DataDirectory} {config : Config}

/-! ## Stores in their directory -/

/-- **The three stores are open on the three files of a directory.** -/
structure InDirectory (stores : FileStores) (path : String) (here : Place) (entries : List Message) :
    Prop where
  fits : Route.Fits (statePath path)
  nonempty : path ≠ ""
  leads : stores.disk.Leads path.toList here
  tidy : stores.disk.Tidy here
  queue : stores.queue.InFile stores.disk here queueFile
  history : stores.history.InFile stores.disk here historyFile entries
  state : stores.state.InFile stores.disk (statePath path) here stateFile

theorem openIn_eq (directory : DataDirectory) (options : StoreOptions) (fold : Fold)
    (disk : FileSystem) :
    openIn directory options fold disk =
      match Queue.openFile (queuePath directory.path) options disk with
      | .error e disk' => .error e disk'
      | .ok queue disk₁ =>
        match History.openFile (historyPath directory.path) options disk₁ with
        | .error e disk' => .error e disk'
        | .ok history disk₂ =>
          match StateStore.openFile (statePath directory.path) fold disk₂ with
          | .error e disk' => .error e disk'
          | .ok state disk₃ => .ok ⟨queue, history, state, some directory, disk₃⟩ disk₃ := by
  simp only [openIn, bind, EStateM.bind]
  cases Queue.openFile (queuePath directory.path) options disk with
  | error e disk' => rfl
  | ok queue disk₁ =>
    dsimp only
    cases History.openFile (historyPath directory.path) options disk₁ with
    | error e disk' => rfl
    | ok history disk₂ =>
      dsimp only
      cases StateStore.openFile (statePath directory.path) fold disk₂ <;> rfl

theorem open_eq (config : Config) (fold : Fold) (disk : FileSystem) :
    FileStores.open config fold disk =
      match DataDirectory.open config.dataDirectory config.createIfMissing disk with
      | .error e disk' => .error e disk'
      | .ok directory disk₁ =>
        match openIn directory config.stores fold disk₁ with
        | .ok stores disk' => .ok stores disk'
        | .error e disk' => .error e (directory.release disk') := by
  simp only [FileStores.open, bind, EStateM.bind]
  cases DataDirectory.open config.dataDirectory config.createIfMissing disk <;> rfl

/-! ## Opening -/

theorem inDirectory_of_openIn (hne : path ≠ "") (hleads : disk.Leads path.toList here)
    (htidy : disk.Tidy here) {lock : Entry}
    (hrun : openIn ⟨path, lock⟩ options fold disk = .ok stores disk') :
    ∃ entries, stores.InDirectory path here entries := by
  rw [openIn_eq] at hrun
  split at hrun
  · cases hrun
  · rename_i queue disk₁ hqueue
    obtain ⟨log, hlog, hfile, halters₁⟩ :=
      Queue.openFile_ok (isFilePath_join hne isFileName_queueFile hleads) htidy hqueue
    have hleads₁ := hleads.keeps halters₁.keeps
    split at hrun
    · cases hrun
    · rename_i history disk₂ hhistory
      obtain ⟨hfits, ⟨entries, hentries⟩, halters₂⟩ := History.openFile_ok
        (isFilePath_join hne isFileName_historyFile hleads₁) halters₁.tidy hhistory
      have hleads₂ := hleads₁.keeps halters₂.keeps
      split at hrun
      · cases hrun
      · rename_i state disk₃ hstate
        obtain ⟨hheld, halters₃⟩ := StateStore.openFile_ok
          (isFilePath_join hne isFileName_stateFile hleads₂) halters₂.tidy (fits_statePath hfits) hstate
        cases hrun
        refine ⟨entries, fits_statePath hfits, hne, hleads₂.keeps halters₃.keeps, halters₃.tidy,
          ⟨log, hlog, ?_⟩, hentries.alters halters₃ (by decide), hheld⟩
        exact (hfile.alters halters₂ (by decide)).alters halters₃ (by decide)

/-- **Stores that were opened**, in a directory that was there or was made for them, are open in it.
All the file system has to keep to is that no file has two names and no name is a link to the full
device. -/
theorem inDirectory_of_open (htidy : ∀ here, disk.Tidy here)
    (hrun : FileStores.open config fold disk = .ok stores disk') :
    ∃ here entries, stores.InDirectory config.dataDirectory here entries := by
  rw [open_eq, DataDirectory.open_eq] at hrun
  cases hensure : ensure config.dataDirectory config.createIfMissing disk with
  | error e disk₁ =>
    rw [hensure] at hrun
    cases hrun
  | ok a disk₁ =>
    obtain ⟨hdir, htidy₁⟩ := ensure_ok hensure htidy
    have hfits := fits_of_isDirectory hdir
    obtain ⟨here, hleads⟩ := (isDirectory_iff_leads hfits).1 hdir
    rw [hensure] at hrun
    dsimp only at hrun
    rcases takeLock_cases hfits.2.1 hleads (htidy₁ here) with
      ⟨lock, disk₂, hlock, halters⟩ | ⟨e, disk₂, hlock, -⟩
    · rw [hlock] at hrun
      dsimp only at hrun
      split at hrun
      · rename_i hopen
        cases hrun
        exact ⟨here, inDirectory_of_openIn hfits.2.1 (hleads.keeps halters.keeps) halters.tidy hopen⟩
      · cases hrun
    · rw [hlock] at hrun
      cases hrun

/-- **What a data directory says** that nobody has open: what is pending, the entries of the history,
and how far the fold has come. No temporary file has been left in it. -/
structure DirectorySays (disk : FileSystem) (path : String) (here : Place) (fold : Fold)
    (pending entries : List Message) (snapshot : Snapshot) : Prop where
  fits : Route.Fits path
  leads : disk.Leads path.toList here
  tidy : disk.Tidy here
  queue : Queue.FileSays disk here queueFile pending
  history : History.FileSays disk here historyFile entries
  state : StateStore.FileSays disk here stateFile fold snapshot
  queueTemporary : disk.entry? (here ++ [temporaryName queueFile]) = none
  stateTemporary : disk.entry? (here ++ [temporaryName stateFile]) = none

theorem DirectorySays.alters_lockFile (h : DirectorySays disk path here fold pending entries snapshot)
    (halters : Alters here [lockFile] disk disk') :
    DirectorySays disk' path here fold pending entries snapshot :=
  ⟨h.fits, h.leads.keeps halters.keeps, halters.tidy, h.queue.alters halters (by decide),
    h.history.alters halters (by decide), h.state.alters halters (by decide),
    by rw [halters.entry (by decide), h.queueTemporary],
    by rw [halters.entry (by decide), h.stateTemporary]⟩

theorem DirectorySays.openQueue (h : DirectorySays disk path here fold pending entries snapshot)
    (options : StoreOptions) :
    (∃ queue disk', Queue.openFile (queuePath path) options disk = .ok queue disk' ∧
        queue.InFile disk' here queueFile ∧ queue.pending = pending ∧
        DirectorySays disk' path here fold pending entries snapshot) ∨
      ∃ e disk', Queue.openFile (queuePath path) options disk = .error e disk' ∧
        DirectorySays disk' path here fold pending entries snapshot := by
  have hpath : disk.IsFilePath (queuePath path) here queueFile :=
    isFilePath_join h.fits.2.1 isFileName_queueFile h.leads
  have hsaid {disk' : FileSystem} (halters : Alters here [queueFile, temporaryName queueFile] disk disk')
      (hqueue : Queue.FileSays disk' here queueFile pending)
      (hgone : disk'.entry? (here ++ [temporaryName queueFile]) = none) :
      DirectorySays disk' path here fold pending entries snapshot :=
    ⟨h.fits, h.leads.keeps halters.keeps, halters.tidy, hqueue, h.history.alters halters (by decide),
      h.state.alters halters (by decide), hgone, by rw [halters.entry (by decide), h.stateTemporary]⟩
  rcases Queue.openFile_of_says hpath h.tidy h.queue h.queueTemporary options with
    ⟨queue, disk', hrun, hpending, hgone⟩ | ⟨e, disk', hrun, halters, hqueue, hgone⟩
  · obtain ⟨log, hlog, hfile, halters⟩ := Queue.openFile_ok hpath h.tidy hrun
    have hqueue := hfile.fileSays
    rw [hpending] at hqueue
    exact .inl ⟨queue, disk', hrun, ⟨log, hlog, hfile⟩, hpending, hsaid halters hqueue hgone⟩
  · exact .inr ⟨e, disk', hrun, hsaid halters hqueue hgone⟩

theorem DirectorySays.openHistory (h : DirectorySays disk path here fold pending entries snapshot)
    (options : StoreOptions) :
    (∃ history disk', History.openFile (historyPath path) options disk = .ok history disk' ∧
        Route.Fits (historyPath path) ∧ history.InFile disk' here historyFile entries ∧
        Alters here [historyFile] disk disk' ∧
        DirectorySays disk' path here fold pending entries snapshot) ∨
      ∃ e, History.openFile (historyPath path) options disk = .error e disk := by
  have hpath : disk.IsFilePath (historyPath path) here historyFile :=
    isFilePath_join h.fits.2.1 isFileName_historyFile h.leads
  rcases History.openFile_of_says hpath h.tidy h.history options with
    ⟨history, disk', hrun, hfits, hfile, halters⟩ | ⟨e, hrun⟩
  · exact .inl ⟨history, disk', hrun, hfits, hfile, halters, h.fits, h.leads.keeps halters.keeps,
      halters.tidy, h.queue.alters halters (by decide), hfile.fileSays,
      h.state.alters halters (by decide), by rw [halters.entry (by decide), h.queueTemporary],
      by rw [halters.entry (by decide), h.stateTemporary]⟩
  · exact .inr ⟨e, hrun⟩

theorem DirectorySays.openState (h : DirectorySays disk path here fold pending entries snapshot)
    (hfits : Route.Fits (statePath path)) :
    (∃ disk', StateStore.openFile (statePath path) fold disk =
          .ok ⟨statePath path, fold, snapshot, false⟩ disk' ∧
        StateStore.InFile ⟨statePath path, fold, snapshot, false⟩ disk' (statePath path) here stateFile ∧
        Alters here [stateFile, temporaryName stateFile] disk disk' ∧
        disk'.entry? (here ++ [temporaryName stateFile]) = none) ∨
      ∃ e, StateStore.openFile (statePath path) fold disk = .error e disk := by
  have hpath : disk.IsFilePath (statePath path) here stateFile :=
    isFilePath_join h.fits.2.1 isFileName_stateFile h.leads
  rcases StateStore.openFile_of_says hpath h.tidy hfits h.state h.stateTemporary with
    ⟨disk', hrun, hgone⟩ | ⟨e, hrun⟩
  · obtain ⟨hfile, halters⟩ := StateStore.openFile_ok hpath h.tidy hfits hrun
    exact .inl ⟨disk', hrun, hfile, halters, hgone⟩
  · exact .inr ⟨e, hrun⟩

/-- **Stores that are open in a directory in order**, with what is pending, the entries and the
snapshot. -/
structure Says (stores : FileStores) (path : String) (here : Place) (fold : Fold)
    (pending entries : List Message) (snapshot : Snapshot) : Prop where
  inDirectory : stores.InDirectory path here entries
  pending : stores.queue.pending = pending
  fold : stores.state.fold = fold
  snapshot : stores.state.snapshot = snapshot
  fits : Route.Fits path
  queueTemporary : stores.disk.entry? (here ++ [temporaryName queueFile]) = none
  stateTemporary : stores.disk.entry? (here ++ [temporaryName stateFile]) = none

/-- **Opening a directory that was left in order** gives back what it says. Where it fails, the
directory still says the same. -/
theorem openIn_of_says (h : DirectorySays disk path here fold pending entries snapshot) (lock : Entry)
    (options : StoreOptions) :
    (∃ stores, openIn ⟨path, lock⟩ options fold disk = .ok stores stores.disk ∧
        stores.Says path here fold pending entries snapshot ∧
        stores.directory = some ⟨path, lock⟩) ∨
      ∃ e disk', openIn ⟨path, lock⟩ options fold disk = .error e disk' ∧
        DirectorySays disk' path here fold pending entries snapshot := by
  rw [openIn_eq]
  dsimp only
  rcases h.openQueue options with ⟨queue, disk₁, hrun, hqueue, hpending, h₁⟩ | ⟨e, disk₁, hrun, h₁⟩
  · rw [hrun]
    dsimp only
    rcases h₁.openHistory options with
      ⟨history, disk₂, hrun, hfits, hhistory, halters₂, h₂⟩ | ⟨e, hrun⟩
    · rw [hrun]
      dsimp only
      have hqueue₂ := hqueue.alters halters₂ (by decide)
      rcases h₂.openState (fits_statePath hfits) with ⟨disk₃, hrun, hstate, halters₃, hgone⟩ | ⟨e, hrun⟩
      · rw [hrun]
        refine .inl ⟨⟨queue, history, _, some ⟨path, lock⟩, disk₃⟩, rfl, ⟨⟨fits_statePath hfits,
          h.fits.2.1, h₂.leads.keeps halters₃.keeps, halters₃.tidy, ?_, ?_, hstate⟩, hpending, rfl,
          rfl, h.fits, ?_, hgone⟩, rfl⟩
        · exact hqueue₂.alters halters₃ (by decide)
        · exact hhistory.alters halters₃ (by decide)
        · show disk₃.entry? _ = none
          rw [halters₃.entry (by decide), h₂.queueTemporary]
      · rw [hrun]
        exact .inr ⟨e, disk₂, rfl, h₂⟩
    · rw [hrun]
      exact .inr ⟨e, disk₁, rfl, h₁⟩
  · rw [hrun]
    exact .inr ⟨e, disk₁, rfl, h₁⟩

/-- **Locking and opening a directory that was left in order.** -/
theorem open_of_says (config : Config)
    (h : DirectorySays disk config.dataDirectory here fold pending entries snapshot) :
    (∃ stores, FileStores.open config fold disk = .ok stores stores.disk ∧
        stores.Says config.dataDirectory here fold pending entries snapshot) ∨
      ∃ e disk', FileStores.open config fold disk = .error e disk' ∧
        DirectorySays disk' config.dataDirectory here fold pending entries snapshot := by
  rw [open_eq, DataDirectory.open_eq,
    ensure_of_isDirectory ((isDirectory_iff_leads h.fits).2 ⟨here, h.leads⟩)]
  dsimp only
  rcases takeLock_cases h.fits.2.1 h.leads h.tidy with
    ⟨lock, disk₁, hrun, halters⟩ | ⟨e, disk₁, hrun, halters⟩
  · rw [hrun]
    dsimp only
    rcases openIn_of_says (h.alters_lockFile halters) lock config.stores with
      ⟨stores, hrun, hsaid, -⟩ | ⟨e, disk', hrun, hsaid⟩
    · rw [hrun]
      exact .inl ⟨stores, rfl, hsaid⟩
    · rw [hrun]
      exact .inr ⟨e, _, rfl, hsaid.alters_lockFile (alters_locked hsaid.tidy _ _)⟩
  · rw [hrun]
    exact .inr ⟨e, disk₁, rfl, h.alters_lockFile halters⟩

/-! ## Calls -/

theorem InDirectory.reader_eq (h : stores.InDirectory path here entries) :
    MessageStores.reader stores = .ok (.ofList entries) := by
  obtain ⟨n, -, log, image, hlog, -⟩ := h.history
  show stores.history.reader = .ok (.ofList entries)
  rw [hlog, History.reader_ofEntries]

theorem InDirectory.stack_eq (h : stores.InDirectory path here entries) :
    stores.history.stack.reverse = entries := by
  obtain ⟨n, -, log, image, hlog, -⟩ := h.history
  rw [hlog]
  simp [History.ofEntries]

theorem InDirectory.reader_ok (h : stores.InDirectory path here entries) :
    ∃ reader, MessageStores.reader stores = .ok reader := ⟨_, h.reader_eq⟩

/-- **A fold** replaces the state file and changes nothing else, or fails and changes nothing. -/
theorem InDirectory.fold_cases (h : stores.InDirectory path here entries) (message : Message) :
    (Route.Fits (Path.temporary (statePath path)) ∧
        MessageStores.fold message stores = .ok (stores.state.next message).digest
          { stores with
            state := { stores.state with snapshot := stores.state.next message }
            disk := stores.disk.replaced here stateFile (stores.state.next message).encode }) ∨
      ¬ Route.Fits (Path.temporary (statePath path)) ∧
        ∃ e, MessageStores.fold message stores = .error (.ofStorageOs e) stores := by
  have hpath : stores.disk.IsFilePath (statePath path) here stateFile :=
    isFilePath_join h.nonempty isFileName_stateFile h.leads
  have hrun : MessageStores.fold message stores =
      statePart.run (StateStore.apply message) stores := rfl
  rw [hrun, Part.run]
  rcases h.state.apply_cases hpath h.tidy h.fits message with ⟨hfits, happly⟩ | ⟨hfits, e, happly⟩
  · rw [show StateStore.apply message (statePart.get stores) = _ from happly]
    exact .inl ⟨hfits, rfl⟩
  · rw [show StateStore.apply message (statePart.get stores) = _ from happly]
    exact .inr ⟨hfits, e, rfl⟩

theorem InDirectory.withFold (h : stores.InDirectory path here entries) (message : Message)
    (hfits : Route.Fits (Path.temporary (statePath path))) :
    InDirectory { stores with
        state := { stores.state with snapshot := stores.state.next message }
        disk := stores.disk.replaced here stateFile (stores.state.next message).encode }
        path here entries ∧
      Alters here [stateFile, temporaryName stateFile] stores.disk
        (stores.disk.replaced here stateFile (stores.state.next message).encode) := by
  have halters := alters_replaced h.tidy (h.state.temporary hfits) h.state.holds.not_directory
    (stores.state.next message).encode
  exact ⟨⟨h.fits, h.nonempty, h.leads.keeps halters.keeps, halters.tidy,
    h.queue.alters halters (by decide), h.history.alters halters (by decide),
    h.state.replaced message⟩, halters⟩

theorem InDirectory.withQueue {queue : Queue OpenFile} (h : stores.InDirectory path here entries)
    (halters : Alters here [queueFile] stores.disk disk') (hqueue : queue.InFile disk' here queueFile) :
    InDirectory { stores with queue, disk := disk' } path here entries :=
  ⟨h.fits, h.nonempty, h.leads.keeps halters.keeps, halters.tidy, hqueue,
    h.history.alters halters (by decide), h.state.alters halters (by decide) (by decide)⟩

theorem InDirectory.withHistory {history : History OpenFile} {entries' : List Message}
    (h : stores.InDirectory path here entries)
    (halters : Alters here [historyFile] stores.disk disk')
    (hhistory : history.InFile disk' here historyFile entries') :
    InDirectory { stores with history, disk := disk' } path here entries' :=
  ⟨h.fits, h.nonempty, h.leads.keeps halters.keeps, halters.tidy,
    h.queue.alters halters (by decide), hhistory, h.state.alters halters (by decide) (by decide)⟩

/-- **An enqueue** adds the message to what is pending, or fails and adds nothing. -/
theorem InDirectory.enqueue_cases (h : stores.InDirectory path here entries) (message : Message) :
    ∃ queue disk', InDirectory { stores with queue, disk := disk' } path here entries ∧
      Alters here [queueFile] stores.disk disk' ∧
      ((MessageStores.enqueue message stores = .ok () { stores with queue, disk := disk' } ∧
          queue.pending = stores.queue.pending ++ [message]) ∨
        ∃ e, e.isClosed = false ∧
          MessageStores.enqueue message stores = .error e { stores with queue, disk := disk' } ∧
          queue.pending = stores.queue.pending) := by
  have hrun : MessageStores.enqueue message stores =
      queuePart.run (Queue.enqueue message) stores := rfl
  rw [hrun, Part.run]
  cases hcall : Queue.enqueue message (queuePart.get stores) with
  | ok a s =>
    obtain ⟨queue, disk'⟩ := s
    obtain ⟨hqueue, halters, hpending⟩ := h.queue.enqueue_ok h.tidy hcall
    exact ⟨queue, disk', h.withQueue halters hqueue, halters, .inl ⟨rfl, hpending⟩⟩
  | error e s =>
    obtain ⟨queue, disk'⟩ := s
    obtain ⟨hqueue, halters, hpending⟩ := h.queue.enqueue_error h.tidy hcall
    exact ⟨queue, disk', h.withQueue halters hqueue, halters,
      .inr ⟨e, h.queue.enqueue_error_isClosed hcall, rfl, hpending⟩⟩

/-- **A push** adds the message to the entries, or fails and adds nothing. -/
theorem InDirectory.push_cases (h : stores.InDirectory path here entries) (message : Message) :
    ∃ history disk', Alters here [historyFile] stores.disk disk' ∧
      ((MessageStores.push message stores = .ok () { stores with history, disk := disk' } ∧
          InDirectory { stores with history, disk := disk' } path here (entries ++ [message])) ∨
        ∃ e, e.isClosed = false ∧
          MessageStores.push message stores = .error e { stores with history, disk := disk' } ∧
          InDirectory { stores with history, disk := disk' } path here entries) := by
  have hrun : MessageStores.push message stores =
      historyPart.run (History.push message) stores := rfl
  rw [hrun, Part.run]
  cases hcall : History.push message (historyPart.get stores) with
  | ok a s =>
    obtain ⟨history, disk'⟩ := s
    obtain ⟨hhistory, halters⟩ := h.history.push_ok h.tidy hcall
    exact ⟨history, disk', halters, .inl ⟨rfl, h.withHistory halters hhistory⟩⟩
  | error e s =>
    obtain ⟨history, disk'⟩ := s
    obtain ⟨hhistory, halters⟩ := h.history.push_error h.tidy hcall
    exact ⟨history, disk', halters,
      .inr ⟨e, h.history.push_error_isClosed hcall, rfl, h.withHistory halters hhistory⟩⟩

/-- **A dequeue** gives the head of what is pending. -/
theorem InDirectory.dequeue_cases (h : stores.InDirectory path here entries) :
    ∃ queue disk', MessageStores.dequeue stores =
        .ok stores.queue.pending.head? { stores with queue, disk := disk' } ∧
      InDirectory { stores with queue, disk := disk' } path here entries ∧
      Alters here [queueFile] stores.disk disk' ∧ queue.pending = stores.queue.pending.tail := by
  have hrun : (MessageStores.dequeue : EStateM StoreError FileStores _) stores =
      queuePart.run Queue.dequeue stores := rfl
  obtain ⟨queue, disk', hcall, hqueue, halters, hpending⟩ := h.queue.dequeue_cases h.tidy
  refine ⟨queue, disk', ?_, h.withQueue halters hqueue, halters, hpending⟩
  rw [hrun, Part.run, show Queue.dequeue (queuePart.get stores) = _ from hcall]
  rfl

end FileStores

end Replica
