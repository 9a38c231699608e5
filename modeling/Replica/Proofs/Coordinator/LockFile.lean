/-
The lock file of a data directory.

Opening the queue, the history and the state file of a directory, calling the stores and
closing them may change a lot, and any of it may fail; but none of it removes or replaces
a name outside its own file and its sibling, so the lock file keeps its entry and its lock
(`FileSystem.Sparing`). What takes the lock is opening the directory: that goes through
only if the lock was free (`takeLock_ok`), and changes nothing if it was not
(`takeLock_of_isLocked`).
-/
import Replica.Proofs.Coordinator.FileStores
import Replica.Proofs.Disk.Sparing

namespace Replica

open FileSystem

variable {path file : String} {here place : Place} {α : Type}

/-! ## Open files -/

namespace OpenFile

theorem sparing_onDisk {act : DiskAction α} (h : Sparing path here place id act) :
    Sparing path here place Prod.snd (onDisk act) :=
  h.lift Part.right (fun _ => rfl) (fun _ _ => rfl) _

theorem sparing_ensureWritable : Sparing path here place Prod.snd ensureWritable :=
  sparing_of_same fun s => by
    simp only [outcome, ensureWritable]
    cases s.1.readOnly <;> rfl

theorem sparing_append (data : Bytes) :
    Sparing path here place Prod.snd (ByteStore.append data : StoreAction OpenFile FileSystem Nat) := by
  refine .bind sparing_ensureWritable fun _ => sparing_get fun s => ?_
  dsimp only
  split
  · exact sparing_pure _
  · refine .bind (sparing_onDisk (FileSystem.sparing_append _ data)) fun _ => ?_
    exact .bind (sparing_of_same fun _ => rfl) fun _ => sparing_pure _

theorem sparing_sync :
    Sparing path here place Prod.snd (ByteStore.sync : StoreAction OpenFile FileSystem Unit) := by
  show Sparing path here place Prod.snd OpenFile.sync
  unfold OpenFile.sync
  refine sparing_get fun s => ?_
  dsimp only
  split
  · exact sparing_pure ()
  · exact sparing_onDisk (FileSystem.sparing_sync _)

theorem sparing_truncate (size : Nat) :
    Sparing path here place Prod.snd
      (ByteStore.truncate size : StoreAction OpenFile FileSystem Unit) := by
  refine .bind sparing_ensureWritable fun _ => sparing_get fun s => ?_
  dsimp only
  split
  · exact .bind (sparing_throw _) fun _ => .bind (sparing_onDisk (sparing_setLength _ _)) fun _ =>
      .bind (sparing_onDisk (FileSystem.sparing_sync _)) fun _ => sparing_of_same fun _ => rfl
  · exact .bind (sparing_onDisk (sparing_setLength _ _)) fun _ =>
      .bind (sparing_onDisk (FileSystem.sparing_sync _)) fun _ => sparing_of_same fun _ => rfl

theorem sparing_open (h : Clear path here place file) : Sparing path here place id (OpenFile.open file) :=
  .bind (fun _ hleads => spares_openWrite (h.aside hleads)) fun _ =>
    sparing_get fun _ => sparing_pure _

/-- The parent is a directory already, or none, so the file is all that may be made. -/
theorem sparing_openWithDirectories (h : Clear path here place file) :
    Sparing path here place id (openWithDirectories file) := by
  rw [openWithDirectories]
  split
  · rename_i parent hparent
    exact .bind (h.makeDirectories hparent) fun _ => sparing_open h
  · exact sparing_open h

end OpenFile

/-! ## Logs -/

namespace Log

theorem sparing_onStore {act : StoreAction OpenFile FileSystem α}
    (h : Sparing path here place Prod.snd act) : Sparing path here place Prod.snd (onStore act) :=
  h.lift storePart (fun _ => rfl) (fun _ _ => rfl) _

theorem sparing_recover (format : LogFormat) :
    Sparing path here place Prod.snd
      (recover format : EStateM StoreError (OpenFile × FileSystem) _) := by
  refine sparing_get fun s => ?_
  dsimp only
  split
  · exact sparing_throw _
  split
  · exact sparing_throw _
  split
  · exact .bind ((OpenFile.sparing_truncate _).adaptExcept _) fun _ => sparing_pure _
  · exact sparing_pure _

theorem sparing_reset :
    Sparing path here place Prod.snd (reset : Action OpenFile FileSystem Unit) :=
  sparing_onStore (OpenFile.sparing_truncate 0)

theorem sparing_sync : Sparing path here place Prod.snd (sync : Action OpenFile FileSystem Unit) :=
  .bind (sparing_onStore (sparing_pure ())) fun _ => sparing_onStore OpenFile.sparing_sync

theorem sparing_write (syncOnWrite : Bool) (frame : Bytes) :
    Sparing path here place Prod.snd
      (write syncOnWrite frame : StoreAction OpenFile FileSystem Nat) := by
  refine .bind (OpenFile.sparing_append frame) fun offset => ?_
  split
  · exact .bind OpenFile.sparing_sync fun _ => sparing_pure offset
  · exact sparing_pure offset

theorem sparing_append (kind : RecordKind) (payload : Bytes) :
    Sparing path here place Prod.snd (append kind payload : Action OpenFile FileSystem Nat) := by
  intro (log, disk) hleads
  cases hencode : Frame.encode log.format.magic kind payload with
  | error e =>
    simp only [outcome, append, hencode]
    exact .refl place disk
  | ok frame =>
    have hwrite : Spares place disk (outcome (onStore (write log.syncOnWrite frame)) (log, disk)).2.2 :=
      sparing_onStore (sparing_write log.syncOnWrite frame) (log, disk) hleads
    simp only [outcome, append, hencode] at hwrite ⊢
    cases hrun : onStore (write log.syncOnWrite frame) (log, disk) with
    | ok offset s =>
      rw [hrun] at hwrite
      exact hwrite
    | error e s =>
      rw [hrun] at hwrite
      have hcut : Spares place s.2
          (outcome (onStore (ByteStore.truncate (ByteStore.size log.store disk))) s).2.2 :=
        sparing_onStore (OpenFile.sparing_truncate _) s (hleads.keeps hwrite.keeps)
      refine hwrite.trans ?_
      simp only [outcome] at hcut ⊢
      cases hback : onStore (ByteStore.truncate (ByteStore.size log.store disk)) s with
      | ok a s' | error e' s' =>
        rw [hback] at hcut
        exact hcut

end Log

/-! ## Queues -/

namespace Queue

theorem sparing_withLog {act : Log.Action OpenFile FileSystem α}
    (h : Sparing path here place Prod.snd act) : Sparing path here place Prod.snd (withLog act) :=
  h.of_part fun queue disk => by
    simp only [outcome, withLog]
    cases queue.log with
    | none => exact .inl rfl
    | some log =>
      refine .inr ⟨log, ?_⟩
      dsimp only
      cases act (log, disk) <;> rfl

theorem sparing_enqueue (message : Message) :
    Sparing path here place Prod.snd (enqueue message : Action OpenFile FileSystem Unit) := by
  refine .bind (sparing_withLog ?_) fun _ => sparing_of_same fun _ => rfl
  split
  · exact sparing_throw _
  · exact .bind (Log.sparing_append _ _) fun _ => sparing_pure ()

theorem sparing_resetDrained :
    Sparing path here place Prod.snd (resetDrained : Action OpenFile FileSystem Unit) :=
  (sparing_withLog Log.sparing_reset).of_part fun queue disk => by
    simp only [outcome, resetDrained]
    by_cases hnil : queue.pending = []
    · refine .inr ⟨queue, ?_⟩
      rw [if_pos hnil]
      cases withLog Log.reset (queue, disk) <;> rfl
    · rw [if_neg hnil]
      exact .inl rfl

theorem sparing_takeHead (pending : List Message) :
    Sparing path here place Prod.snd (match pending with
      | [] => return none
      | head :: rest => do
        withLog do let _ ← Log.append .dequeue (QueueReplay.dequeuePayload head.id)
        modify fun (queue, world) => ({ queue with pending := rest }, world)
        resetDrained
        return some head : Action OpenFile FileSystem (Option Message)) := by
  cases pending with
  | nil => exact sparing_pure none
  | cons head rest =>
    refine .bind (sparing_withLog (.bind (Log.sparing_append _ _) fun _ => sparing_pure ())) fun _ => ?_
    refine .bind (sparing_of_same fun _ => rfl) fun _ => ?_
    exact .bind sparing_resetDrained fun _ => sparing_pure _

theorem sparing_dequeue :
    Sparing path here place Prod.snd (dequeue : Action OpenFile FileSystem _) := by
  refine sparing_get fun s => ?_
  dsimp only
  split
  · exact .bind (sparing_throw _) fun _ => sparing_takeHead s.1.pending
  · exact sparing_takeHead s.1.pending

theorem sparing_close :
    Sparing path here place Prod.snd (close : Action OpenFile FileSystem Unit) :=
  Log.sparing_sync.of_part fun queue disk => by
    simp only [outcome, close]
    cases queue.log with
    | none => exact .inl rfl
    | some log =>
      refine .inr ⟨log, ?_⟩
      dsimp only
      cases Log.sync (log, disk) <;> rfl

theorem sparing_recoverFile (options : StoreOptions) (opened : OpenFile) :
    Sparing path here place id (recoverFile options opened) :=
  (Log.sparing_recover queueFormat).of_outcome (fun disk => (opened, disk)) (fun _ => rfl)
    fun disk => by
      simp only [outcome, recoverFile]
      cases Log.recover queueFormat (opened, disk) <;> rfl

variable (h : Clear path here place file)

include h

theorem sparing_compactWith (mishap : Option Replacement.Mishap) (pending : List Message)
    (options : StoreOptions) :
    Sparing path here place id (compactWith mishap file pending options) := by
  rw [compactWith]
  split
  · exact sparing_throw _
  · refine .bind ((h.replaceWith mishap _).adaptExcept _) fun _ => ?_
    refine .bind ((OpenFile.sparing_open h).adaptExcept _) fun opened => ?_
    exact .bind (sparing_recoverFile options opened) fun _ => sparing_pure _

theorem sparing_maintainWith (mishap : Option Replacement.Mishap) (options : StoreOptions)
    (replay : QueueReplay) (log : Log OpenFile) :
    Sparing path here place id (maintainWith mishap file options replay log) := by
  intro disk hleads
  simp only [outcome, id, maintainWith_eq]
  by_cases hdrained : replay.pending.length = 0 ∧ 0 < replay.consumed
  · have hreset : Spares place disk (outcome Log.reset (log, disk)).2.2 :=
      Log.sparing_reset (log, disk) hleads
    rw [if_pos hdrained]
    simp only [outcome] at hreset
    cases hrun : Log.reset (log, disk) with
    | ok a s | error e s =>
      rw [hrun] at hreset
      exact hreset
  · rw [if_neg hdrained]
    by_cases hfull : options.compactThreshold < replay.consumed
    · rw [if_pos hfull]
      exact sparing_compactWith h mishap _ options disk hleads
    · rw [if_neg hfull]
      exact .refl place disk

/-- **Opening a queue file** beside the place. -/
theorem sparing_openFileWith (mishap : Option Replacement.Mishap) (options : StoreOptions) :
    Sparing path here place id (openFileWith mishap file options) := by
  refine .bind (h.removeStale.adaptExcept _) fun _ => ?_
  refine .bind ((OpenFile.sparing_openWithDirectories h).adaptExcept _) fun opened => ?_
  refine .bind (sparing_recoverFile options opened) fun recovered => ?_
  dsimp only
  split
  · exact sparing_throw _
  · exact .bind (sparing_maintainWith h mishap options _ _) fun _ => sparing_pure _

end Queue

/-! ## Histories -/

namespace History

theorem sparing_record (message : Message) :
    Sparing path here place Prod.snd (record message : Action OpenFile FileSystem Unit) := by
  cases hencode : message.encode with
  | error e =>
    refine sparing_of_same fun s => ?_
    simp only [outcome, record, hencode]
    cases s.1.log <;> rfl
  | ok payload =>
    refine (Log.sparing_append .push payload).of_part fun history disk => ?_
    simp only [outcome, record, hencode]
    cases history.log with
    | none => exact .inl rfl
    | some log =>
      refine .inr ⟨log, ?_⟩
      dsimp only
      cases Log.append .push payload (log, disk) <;> rfl

theorem sparing_push (message : Message) :
    Sparing path here place Prod.snd (push message : Action OpenFile FileSystem Unit) :=
  .bind (sparing_record message) fun _ => sparing_of_same fun _ => rfl

theorem sparing_close :
    Sparing path here place Prod.snd (close : Action OpenFile FileSystem Unit) :=
  Log.sparing_sync.of_part fun history disk => by
    simp only [outcome, close]
    cases history.log with
    | none => exact .inl rfl
    | some log =>
      refine .inr ⟨log, ?_⟩
      dsimp only
      cases Log.sync (log, disk) <;> rfl

theorem sparing_attach (options : StoreOptions) :
    Sparing path here place Prod.snd
      (attach options : EStateM StoreError (OpenFile × FileSystem) _) := by
  refine .bind (Log.sparing_recover historyFormat) fun records => ?_
  split
  · exact sparing_throw _
  · exact sparing_get fun _ => sparing_pure _

/-- **Opening a history file** beside the place. -/
theorem sparing_openFile (h : Clear path here place file) (options : StoreOptions) :
    Sparing path here place id (openFile file options) := by
  refine .bind ((OpenFile.sparing_openWithDirectories h).adaptExcept _) fun opened => ?_
  refine (sparing_attach options).of_outcome (fun disk => (opened, disk)) (fun _ => rfl) fun disk => ?_
  simp only [outcome]
  cases attach options (opened, disk) <;> rfl

end History

/-! ## State stores -/

namespace StateStore

/-- **A fold** replaces the state file. -/
theorem spares_applyWith {state : StateStore} {disk : FileSystem}
    (h : Clear path here place state.path) (hleads : disk.Leads path.toList here)
    (mishap : Option Replacement.Mishap) (message : Message) :
    Spares place disk (outcome (applyWith mishap message) (state, disk)).2.2 := by
  simp only [outcome, applyWith]
  cases state.isClosed with
  | true => exact .refl place disk
  | false =>
    have hreplace : Spares place disk
        (outcome (FileSystem.replaceWith mishap state.path (state.next message).encode) disk).2 :=
      h.replaceWith mishap _ disk hleads
    simp only [outcome, Bool.false_eq_true, if_false] at hreplace ⊢
    cases hrun : FileSystem.replaceWith mishap state.path (state.next message).encode disk with
    | ok a disk' | error e disk' =>
      rw [hrun] at hreplace
      exact hreplace

theorem path_of_openFileWith {mishap : Option Replacement.Mishap} {fold : Fold} {state : StateStore}
    {disk disk' : FileSystem} (hrun : openFileWith mishap file fold disk = .ok state disk') :
    state.path = file := by
  rw [openFileWith_eq] at hrun
  split at hrun
  · cases hrun
  split at hrun
  · split at hrun
    · cases hrun
    · cases hrun
      rfl
  · split at hrun
    · cases hrun
    · cases hrun
      rfl

variable (h : Clear path here place file)

include h

theorem sparing_createWith (mishap : Option Replacement.Mishap) (fold : Fold) :
    Sparing path here place id (createWith mishap file fold) := by
  have hreplace : Sparing path here place id (do
      (FileSystem.replaceWith mishap file (Snapshot.encode ⟨fold.initial, 0⟩)).adaptExcept
        StoreError.ofStorageOs
      return (⟨fold.initial, 0⟩ : Snapshot)) :=
    .bind ((h.replaceWith mishap _).adaptExcept _) fun _ => sparing_pure _
  rw [createWith]
  split
  · rename_i parent hparent
    exact .bind ((h.makeDirectories hparent).adaptExcept _) fun _ => hreplace
  · exact hreplace

/-- **Opening a state file** beside the place. -/
theorem sparing_openFileWith (mishap : Option Replacement.Mishap) (fold : Fold) :
    Sparing path here place id (openFileWith mishap file fold) := by
  refine .bind (h.removeStale.adaptExcept _) fun _ => sparing_get fun disk => ?_
  have hlook : Sparing path here place id
      (observe (readSnapshot · file) : EStateM StoreError FileSystem Snapshot) :=
    sparing_of_same fun disk => by
      simp only [outcome, observe, id]
      cases readSnapshot disk file <;> rfl
  dsimp only
  split
  · exact .bind hlook fun _ => sparing_pure _
  · exact .bind (sparing_createWith h mishap fold) fun _ => sparing_pure _

end StateStore

/-! ## Taking the lock -/

namespace DataDirectory

variable {disk disk' : FileSystem} {lock : Entry} {directory : DataDirectory} {createIfMissing : Bool}

/-- **The lock of a directory is held**: its lock file stands for this entry, whose lock somebody
has. -/
structure IsLocked (here : Place) (disk : FileSystem) (lock : Entry) : Prop where
  entry : disk.entry? (here ++ [lockFile]) = some lock
  locked : lock ∈ disk.locked
  ne_directory : lock ≠ .directory

theorem IsLocked.spares (h : IsLocked here disk lock)
    (hspares : Spares (here ++ [lockFile]) disk disk') : IsLocked here disk' lock :=
  ⟨hspares.entry.trans h.entry, hspares.locked ▸ h.locked, h.ne_directory⟩

theorem clear_file {name : String} (hne : path ≠ "")
    (hname : name ∈ [queueFile, historyFile, stateFile]) :
    Clear path here (here ++ [lockFile]) (Path.join path name) := by
  simp only [List.mem_cons, List.not_mem_nil, or_false] at hname
  rcases hname with rfl | rfl | rfl <;>
    exact clear_join hne (by decide) (by decide) (by decide)

theorem open_of_isDirectory (h : disk.isDirectory path = true) :
    DataDirectory.open path createIfMissing disk = takeLock path disk := by
  rw [open_eq, ensure_of_isDirectory h]

theorem path_of_takeLock (h : takeLock path disk = .ok directory disk') : directory.path = path := by
  rw [takeLock] at h
  split at h
  · cases h
  · split at h
    · cases h
      rfl
    · cases h

theorem path_of_open (h : DataDirectory.open path createIfMissing disk = .ok directory disk') :
    directory.path = path := by
  rw [open_eq] at h
  split at h
  · cases h
  · exact path_of_takeLock h

/-- What is said to somebody who finds the lock held: the lock file's own path may be too long. -/
def refusal (path : String) : StoreError :=
  if Route.Fits (Path.join path lockFile) then .directoryLocked path else .ofOs .nameTooLong

theorem ofPath_join_of_not_fits (hfits : Route.Fits path)
    (h : ¬ Route.Fits (Path.join path lockFile)) :
    Route.ofPath (Path.join path lockFile) = .error .nameTooLong := by
  have hzero : '\x00' ∉ (Path.join path lockFile).toList := by
    have hname : '\x00' ∉ lockFile.toList := by decide
    have hslash : '\x00' ∉ "/".toList := by decide
    unfold Path.join
    split
    · exact hname
    split <;> simp only [String.toList_append, List.mem_append, not_or]
    · exact ⟨hfits.1, hname⟩
    · exact ⟨⟨hfits.1, hslash⟩, hname⟩
  have hne : Path.join path lockFile ≠ "" := by
    obtain ⟨text, htext, -⟩ := Path.join_eq hfits.2.1 (show Path.IsPlain lockFile.toList by decide)
    intro heq
    rw [heq] at htext
    simp at htext
  have hlong : Route.pathLimit ≤ (Path.join path lockFile).utf8ByteSize :=
    Nat.le_of_not_lt fun hlt => h ⟨hzero, hne, hlt⟩
  have hchars : (Path.join path lockFile).toList ≠ [] := fun heq => hne (String.toList_eq_nil_iff.1 heq)
  simp only [Route.ofPath, hzero, hchars, hlong, if_true, if_false]

/-- **A lock that is held** is refused, and nothing has happened. -/
theorem takeLock_of_isLocked (h : IsLocked here disk lock) (hfits : Route.Fits path)
    (hleads : disk.Leads path.toList here) :
    takeLock path disk = .error (refusal path) disk := by
  rw [takeLock, refusal]
  by_cases hjoin : Route.Fits (Path.join path lockFile)
  · have hwrite := (isFilePath_join hfits.2.1 isFileName_lockFile hleads).names.openWrite hjoin
    have hopen : FileSystem.openWrite (Path.join path lockFile) disk = .ok lock disk := by
      rw [hwrite, h.entry]
      cases lock with
      | directory => exact absurd rfl h.ne_directory
      | file | full => rfl
    rw [hopen, if_pos hjoin]
    simp only [tryLock, h.locked, if_true, Bool.false_eq_true, if_false]
  · have hresolve : disk.resolve (Path.join path lockFile) = .error .nameTooLong := by
      rw [resolve, ofPath_join_of_not_fits hfits hjoin]
    rw [if_neg hjoin]
    simp only [FileSystem.openWrite, bind, EStateM.bind, get_apply, hresolve]
    rfl

theorem openWrite_lockFile (hne : path ≠ "") (hleads : disk.Leads path.toList here)
    (hrun : FileSystem.openWrite (Path.join path lockFile) disk = .ok lock disk') :
    Route.Fits (Path.join path lockFile) ∧ disk'.entry? (here ++ [lockFile]) = some lock ∧
      lock ≠ .directory := by
  obtain ⟨there, name, hresolve, -⟩ := openWrite_ok hrun
  have hfits := fits_of_resolve hresolve
  refine ⟨hfits, ?_⟩
  rw [(isFilePath_join hne isFileName_lockFile hleads).names.openWrite hfits] at hrun
  cases hentry : disk.entry? (here ++ [lockFile]) with
  | none =>
    rw [hentry] at hrun
    cases hrun
    exact ⟨by rw [entry?_withFile, if_pos rfl], by simp⟩
  | some entry =>
    rw [hentry] at hrun
    cases entry with
    | directory => cases hrun
    | file | full =>
      cases hrun
      exact ⟨hentry, by simp⟩

/-- **A lock that was taken** had been free, and is held from then on. -/
theorem takeLock_ok (hfits : Route.Fits path) (hleads : disk.Leads path.toList here)
    (hrun : takeLock path disk = .ok directory disk') :
    Route.Fits (Path.join path lockFile) ∧ IsLocked here disk' directory.lock ∧
      ∀ lock, ¬ IsLocked here disk lock := by
  have hfree (lock : Entry) : ¬ IsLocked here disk lock := by
    intro hlocked
    rw [takeLock_of_isLocked hlocked hfits hleads] at hrun
    cases hrun
  rw [takeLock] at hrun
  split at hrun
  · cases hrun
  · rename_i lock disk₁ hopen
    obtain ⟨hjoin, hentry, hne⟩ := openWrite_lockFile hfits.2.1 hleads hopen
    by_cases hheld : lock ∈ disk₁.locked
    · simp only [tryLock, hheld, if_true, Bool.false_eq_true, if_false] at hrun
      cases hrun
    · simp only [tryLock, hheld, if_true, if_false] at hrun
      cases hrun
      exact ⟨hjoin, ⟨hentry, List.mem_cons_self .., hne⟩, hfree⟩

theorem keeps_takeLock (path : String) (disk : FileSystem) :
    Keeps disk (outcome (takeLock path) disk).2 := by
  have hopen := keeps_openWrite (Path.join path lockFile) disk
  simp only [outcome, takeLock] at hopen ⊢
  cases hrun : FileSystem.openWrite (Path.join path lockFile) disk with
  | error e disk₁ =>
    rw [hrun] at hopen
    exact hopen
  | ok lock disk₁ =>
    rw [hrun] at hopen
    have hlock : Keeps disk₁ (disk₁.tryLock lock).2 := by
      unfold tryLock
      split <;> exact ⟨id, rfl⟩
    dsimp only
    cases (disk₁.tryLock lock).1 <;> exact hopen.trans hlock

end DataDirectory

end Replica
