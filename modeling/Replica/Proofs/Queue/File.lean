/-
Queues in files.

`Queue.InFile` is agreement of a queue with the log in the queue file of a
directory. Opening the file establishes it, whatever the file held, and a file whose
log has no torn record gives back the messages that were pending: dropping a drained
log and compacting change what the log holds, but not what it says.
-/
import Replica.Proofs.ByteStore.OpenFile
import Replica.Proofs.Queue

namespace Replica.Queue

open FileSystem OpenFile

variable {disk disk' : FileSystem} {path : String} {here : Place} {name : String} {n : Nat}
  {options : StoreOptions} {queue queue' : Queue OpenFile}

/-! ## Compacting -/

theorem replays_frames {messages : List Message} {frames : List Bytes} {image : Bytes}
    {replay : QueueReplay} (h : Replays image replay)
    (hframes : messages.mapM enqueueFrame = .ok frames) :
    ∃ replay', Replays (image ++ frames.flatten) replay' ∧ replay'.consumed = replay.consumed ∧
      replay'.pending.toList = replay.pending.toList ++ messages := by
  induction messages generalizing image replay frames with
  | nil =>
    cases hframes
    exact ⟨replay, by simpa using h, rfl, by simp⟩
  | cons message messages ih =>
    rw [List.mapM_cons] at hframes
    cases hframe : enqueueFrame message with
    | error e =>
      rw [hframe] at hframes
      cases hframes
    | ok frame =>
      cases hrest : messages.mapM enqueueFrame with
      | error e =>
        rw [hframe, hrest] at hframes
        cases hframes
      | ok rest =>
        rw [hframe, hrest] at hframes
        cases hframes
        unfold enqueueFrame at hframe
        split at hframe
        · cases hframe
        · rename_i payload hencode
          obtain ⟨hmessage, rfl⟩ := Message.encode_eq_ok_iff.1 hencode
          obtain ⟨hfits, rfl⟩ := Frame.encode_eq_ok_iff.1 hframe
          obtain ⟨replay', hreplays, hconsumed, hpending⟩ := ih (h.enqueue hmessage hfits) hrest
          refine ⟨replay', ?_, hconsumed, ?_⟩
          · rwa [List.flatten_cons, ← List.append_assoc]
          · rw [hpending]
            simp

theorem replays_compactImage {messages : List Message} {image : Bytes}
    (h : compactImage messages = .ok image) :
    ∃ replay, Replays image replay ∧ replay.consumed = 0 ∧ replay.pending.toList = messages := by
  unfold compactImage at h
  cases hframes : messages.mapM enqueueFrame with
  | error e =>
    rw [hframes] at h
    cases h
  | ok frames =>
    rw [hframes] at h
    cases h
    obtain ⟨replay, hreplays, hconsumed, hpending⟩ := replays_frames .nil hframes
    exact ⟨replay, by simpa using hreplays, hconsumed, by simpa using hpending⟩

theorem compactImage_of_fits {messages : List Message} (h : ∀ message ∈ messages, message.Fits) :
    ∃ image, compactImage messages = .ok image := by
  suffices hframes : ∃ frames, messages.mapM enqueueFrame = .ok frames by
    obtain ⟨frames, hframes⟩ := hframes
    exact ⟨frames.flatten, by rw [compactImage, hframes]; rfl⟩
  induction messages with
  | nil => exact ⟨[], rfl⟩
  | cons message messages ih =>
    obtain ⟨hmessage, hrest⟩ := List.forall_mem_cons.1 h
    obtain ⟨frames, hframes⟩ := ih hrest
    have hframe : enqueueFrame message =
        .ok (Frame.toBytes queueFormat.magic .enqueue message.toBytes) := by
      rw [enqueueFrame, hmessage.encode]
      exact Frame.encode_eq_ok_iff.2 ⟨hmessage, rfl⟩
    rw [List.mapM_cons, hframe, hframes]
    exact ⟨_, rfl⟩

/-! ## The calls, written out -/

theorem onDisk_eq {α : Type} (act : DiskAction α) (disk : FileSystem) :
    onDisk act disk =
      match act disk with
      | .ok a disk' => .ok a disk'
      | .error e disk' => .error (.ofStorageOs e) disk' := by
  simp only [onDisk, EStateM.adaptExcept]
  cases act disk <;> rfl

theorem openFileWith_eq (mishap : Option Replacement.Mishap) (path : String) (options : StoreOptions)
    (disk : FileSystem) :
    openFileWith mishap path options disk =
      match removeStale path disk with
      | .error e disk' => .error (.ofStorageOs e) disk'
      | .ok _ disk₁ =>
        match openWithDirectories path disk₁ with
        | .error e disk' => .error (.ofStorageOs e) disk'
        | .ok file disk₂ =>
          match Log.recover queueFormat (file, disk₂) with
          | .error e (_, disk') => .error e disk'
          | .ok records (file', disk₃) =>
            match replayQueue records with
            | .error e => .error e disk₃
            | .ok replay =>
              match maintainWith mishap path options replay
                  ⟨file', queueFormat, options.syncOnWrite⟩ disk₃ with
              | .error e disk' => .error e disk'
              | .ok log disk₄ => .ok ⟨some path, some log, replay.pending.toList⟩ disk₄ := by
  simp only [openFileWith, bind, EStateM.bind, onDisk_eq]
  cases removeStale path disk with
  | error e disk' => rfl
  | ok removed disk₁ =>
    dsimp only
    cases openWithDirectories path disk₁ with
    | error e disk' => rfl
    | ok file disk₂ =>
      dsimp only
      simp only [recoverFile]
      cases Log.recover queueFormat (file, disk₂) with
      | error e s => rfl
      | ok records s =>
        dsimp only
        cases replayQueue records with
        | error e => rfl
        | ok replay =>
          dsimp only
          simp only [EStateM.bind]
          cases maintainWith mishap path options replay
            ⟨s.1, queueFormat, options.syncOnWrite⟩ s.2 <;> rfl

theorem openFileWith_ok {mishap : Option Replacement.Mishap}
    (hrun : openFileWith mishap path options disk = .ok queue disk') :
    ∃ removed disk₁ file disk₂ records file' disk₃ replay log,
      removeStale path disk = .ok removed disk₁ ∧ openWithDirectories path disk₁ = .ok file disk₂ ∧
      Log.recover queueFormat (file, disk₂) = .ok records (file', disk₃) ∧
      replayQueue records = .ok replay ∧
      maintainWith mishap path options replay ⟨file', queueFormat, options.syncOnWrite⟩ disk₃ =
        .ok log disk' ∧
      queue = ⟨some path, some log, replay.pending.toList⟩ := by
  rw [openFileWith_eq] at hrun
  split at hrun
  · cases hrun
  rename_i removed disk₁ hstale
  split at hrun
  · cases hrun
  rename_i file disk₂ hopen
  split at hrun
  · cases hrun
  rename_i records file' disk₃ hrecover
  split at hrun
  · cases hrun
  rename_i replay hreplay
  split at hrun
  · cases hrun
  rename_i log disk₄ hmaintain
  cases hrun
  exact ⟨removed, disk₁, file, disk₂, records, file', disk₃, replay, log, hstale, hopen, hrecover,
    hreplay, hmaintain, rfl⟩

theorem compactWith_eq (mishap : Option Replacement.Mishap) (path : String) (pending : List Message)
    (options : StoreOptions) (disk : FileSystem) :
    compactWith mishap path pending options disk =
      match compactImage pending with
      | .error e => .error e disk
      | .ok image =>
        match replaceWith mishap path image disk with
        | .error e disk' => .error (.ofStorageOs e) disk'
        | .ok _ disk₁ =>
          match OpenFile.open path disk₁ with
          | .error e disk' => .error (.ofStorageOs e) disk'
          | .ok file disk₂ =>
            match Log.recover queueFormat (file, disk₂) with
            | .error e (_, disk') => .error e disk'
            | .ok _ (file', disk₃) => .ok ⟨file', queueFormat, options.syncOnWrite⟩ disk₃ := by
  simp only [compactWith]
  cases compactImage pending with
  | error e => rfl
  | ok image =>
    simp only [bind, EStateM.bind, onDisk_eq]
    cases replaceWith mishap path image disk with
    | error e disk' => rfl
    | ok a disk₁ =>
      dsimp only
      cases OpenFile.open path disk₁ with
      | error e disk' => rfl
      | ok file disk₂ =>
        simp only [recoverFile]
        cases Log.recover queueFormat (file, disk₂) <;> rfl

theorem maintainWith_eq (mishap : Option Replacement.Mishap) (path : String) (options : StoreOptions)
    (replay : QueueReplay) (log : Log OpenFile) (disk : FileSystem) :
    maintainWith mishap path options replay log disk =
      if replay.pending.length = 0 ∧ 0 < replay.consumed then
        match Log.reset (log, disk) with
        | .ok _ (log', disk') => .ok log' disk'
        | .error e (_, disk') => .error e disk'
      else if options.compactThreshold < replay.consumed then
        compactWith mishap path replay.pending.toList options disk
      else .ok log disk := by
  by_cases hdrained : replay.pending.length = 0 ∧ 0 < replay.consumed
  · rw [if_pos hdrained]
    exact congrFun (show maintainWith mishap path options replay log = _ from if_pos hdrained) disk
  · rw [if_neg hdrained]
    have hrest :=
      congrFun (show maintainWith mishap path options replay log = _ from if_neg hdrained) disk
    by_cases hfull : options.compactThreshold < replay.consumed
    · rw [if_pos hfull, hrest]
      exact congrFun (if_pos hfull) disk
    · rw [if_neg hfull, hrest]
      exact congrFun (if_neg hfull) disk

/-! ## Opening -/

/-- The log of a queue file: it is open on the file under the queue's name, and says what is
pending. -/
def LogInFile (log : Log OpenFile) (disk : FileSystem) (here : Place) (name : String)
    (pending : List Message) : Prop :=
  log.format = queueFormat ∧ ∃ n image replay, disk.entry? (here ++ [name]) = some (.file n) ∧
    Holds n disk log.store disk image ∧ Replays image replay ∧ replay.pending.toList = pending

/-- What compacting does: the file is replaced and open again, or nothing has happened. -/
theorem compactWith_cases (h : disk.IsFilePath path here name) (htidy : disk.Tidy here)
    (hfits : Route.Fits path) (hentry : disk.entry? (here ++ [name]) ≠ some .directory)
    (htemporary : Route.Fits (Path.temporary path) →
      disk.entry? (here ++ [temporaryName name]) = none) (pending : List Message)
    (options : StoreOptions) :
    (∃ log disk', compactWith none path pending options disk = .ok log disk' ∧
        LogInFile log disk' here name pending ∧ Alters here [name, temporaryName name] disk disk' ∧
        disk'.entry? (here ++ [temporaryName name]) = none) ∨
      ∃ e, compactWith none path pending options disk = .error e disk := by
  rw [compactWith_eq]
  cases hcompact : compactImage pending with
  | error e => exact .inr ⟨e, rfl⟩
  | ok image =>
    obtain ⟨replay, hreplays, -, hpending⟩ := replays_compactImage hcompact
    obtain ⟨found, hscan, hwhole, hreplay⟩ := id hreplays
    dsimp only
    by_cases hfits' : Route.Fits (Path.temporary path)
    · have hnone := htemporary hfits'
      have halters := alters_replaced htidy hnone hentry image
      obtain ⟨hfile, hgone, hbytes⟩ := entry?_replaced disk here name image
      obtain ⟨file, n, hopen, hentry', hheld⟩ :=
        open_of_hasFile (h.keeps halters.keeps).names hfits halters.tidy ⟨_, hfile, hbytes⟩
      rw [h.replaceWith_eq htidy hfits hfits' hnone hentry]
      dsimp only
      rw [hopen]
      dsimp only
      rw [Log.recover_of_whole ((contract _ _).readAll hheld) hscan hwhole]
      exact .inl ⟨_, _, rfl, ⟨rfl, n, image, replay, hentry', hheld, hreplays, hpending⟩, halters,
        hgone⟩
    · obtain ⟨e, he⟩ := replaceWith_of_not_fits hfits'
      rw [he]
      exact .inr ⟨_, rfl⟩

/-- What the care taken of a log at opening does: the log says what it said. -/
theorem maintainWith_cases {log : Log OpenFile} {image : Bytes} {replay : QueueReplay}
    (h : disk.IsFilePath path here name) (htidy : disk.Tidy here)
    (hfits : Route.Fits path) (hentry : disk.entry? (here ++ [name]) = some (.file n))
    (htemporary : Route.Fits (Path.temporary path) →
      disk.entry? (here ++ [temporaryName name]) = none)
    (hformat : log.format = queueFormat) (hheld : Holds n disk log.store disk image)
    (hreplays : Replays image replay) (options : StoreOptions) :
    (∃ log' disk', maintainWith none path options replay log disk = .ok log' disk' ∧
        LogInFile log' disk' here name replay.pending.toList ∧
        Alters here [name, temporaryName name] disk disk' ∧
        (disk.entry? (here ++ [temporaryName name]) = none →
          disk'.entry? (here ++ [temporaryName name]) = none)) ∨
      ∃ e, maintainWith none path options replay log disk = .error e disk := by
  rw [maintainWith_eq]
  split
  · rename_i hdrained
    have hempty : replay.pending.toList = [] := by
      rw [← List.length_eq_zero_iff, Fifo.length_toList]
      exact hdrained.1
    rw [Log.reset_file hheld.isOn]
    exact .inl ⟨_, _, rfl, ⟨hformat, n, [], {}, hentry, (hheld.setBytes []).rebase, .nil, hempty.symm⟩,
      (alters_setBytes htidy hentry []).mono (by simp), id⟩
  · split
    · rcases compactWith_cases h htidy hfits (by simp [hentry]) htemporary replay.pending.toList
          options with ⟨log', disk', hrun, hlog, halters, hgone⟩ | ⟨e, he⟩
      · exact .inl ⟨log', disk', hrun, hlog, halters, fun _ => hgone⟩
      · exact .inr ⟨e, he⟩
    · exact .inl ⟨log, disk, rfl, ⟨hformat, n, image, replay, hentry, hheld, hreplays, rfl⟩,
        .refl htidy _, id⟩

/-- The queue file of a directory says what is pending; one that is not there says nothing is. -/
def FileSays (disk : FileSystem) (here : Place) (name : String) (pending : List Message) : Prop :=
  (disk.entry? (here ++ [name]) = none ∧ pending = []) ∨
    ∃ n image replay, disk.entry? (here ++ [name]) = some (.file n) ∧
      disk.contents.get? n = some image ∧ Replays image replay ∧ replay.pending.toList = pending

theorem FileSays.missing_or {pending : List Message} (h : FileSays disk here name pending) :
    (disk.entry? (here ++ [name]) = none ∧ pending = []) ∨
      ∃ n image, disk.entry? (here ++ [name]) = some (.file n) ∧ disk.contents.get? n = some image ∧
        ∃ replay, Replays image replay ∧ replay.pending.toList = pending := by
  rcases h with hnone | ⟨n, image, replay, hentry, hbytes, hreplays, hpending⟩
  · exact .inl hnone
  · exact .inr ⟨n, image, hentry, hbytes, replay, hreplays, hpending⟩

theorem FileSays.alters {pending : List Message} {touched : List String}
    (h : FileSays disk here name pending) (halters : Alters here touched disk disk')
    (hname : name ∉ touched) : FileSays disk' here name pending := by
  rcases h with ⟨hnone, hpending⟩ | ⟨n, image, replay, hentry, hbytes, hreplays, hpending⟩
  · exact .inl ⟨by rw [halters.entry hname, hnone], hpending⟩
  · exact .inr ⟨n, image, replay, by rw [halters.entry hname, hentry],
      by rw [halters.contents hname hentry, hbytes], hreplays, hpending⟩

theorem LogInFile.fileSays {log : Log OpenFile} {pending : List Message}
    (h : LogInFile log disk here name pending) : FileSays disk here name pending := by
  obtain ⟨-, n, image, replay, hentry, hheld, hreplays, hpending⟩ := h
  exact .inr ⟨n, image, replay, hentry, hheld.bytes, hreplays, hpending⟩

theorem LogInFile.alters {log : Log OpenFile} {pending : List Message} {touched : List String}
    (h : LogInFile log disk here name pending) (halters : Alters here touched disk disk')
    (hname : name ∉ touched) : LogInFile log disk' here name pending := by
  obtain ⟨hformat, n, image, replay, hentry, hheld, hreplays, hpending⟩ := h
  exact ⟨hformat, n, image, replay, by rw [halters.entry hname, hentry],
    hheld.alters hentry halters hname, hreplays, hpending⟩

/-- **Opening a queue file**, whatever it holds: the queue is open on it, and the log says what is
pending. -/
theorem openFile_ok (h : disk.IsFilePath path here name) (htidy : disk.Tidy here)
    (hrun : openFile path options disk = .ok queue disk') :
    ∃ log, queue.log = some log ∧ LogInFile log disk' here name queue.pending ∧
      Alters here [name, temporaryName name] disk disk' := by
  obtain ⟨removed, disk₁, file, disk₂, records, file', disk₃, replay, log, hstale, hopen, hrecover,
    hreplay, hmaintain, rfl⟩ := openFileWith_ok hrun
  rcases h.removeStale htidy with ⟨removed', disk₁', hstale', halters₁, hgone⟩ | ⟨-, e, hstale'⟩
  · rw [hstale] at hstale'
    cases hstale'
    rcases openWithDirectories_cases (h.keeps halters₁.keeps) halters₁.tidy with
      ⟨hfits, file₁, n, disk₂', image, hopen', hentry, hheld, halters₂, -⟩ | ⟨-, e, hopen'⟩
    · rw [hopen] at hopen'
      cases hopen'
      obtain ⟨found, -, rfl, hheld', hwalk⟩ :=
        @Log.recover_ok _ _ _ (contract n disk₂) _ _ _ _ _ _ _ hheld hrecover
      have halters₃ := alters_of_holds halters₂.tidy hentry hheld'
      have hentry' : disk₃.entry? (here ++ [name]) = some (.file n) := by
        rw [hheld'.entry?_eq, hentry]
      have halters : Alters here [name, temporaryName name] disk disk₃ :=
        (halters₁.mono (by simp)).trans ((halters₂.trans halters₃).mono (by simp))
      have hreplays : Replays (image.take found.validLength) replay :=
        ⟨_, hwalk.scanFrom_eq_ok, rfl, hreplay⟩
      have htemporary (hfits' : Route.Fits (Path.temporary path)) :
          disk₃.entry? (here ++ [temporaryName name]) = none := by
        rw [(halters₂.trans halters₃).entry (by simp [temporaryName_ne]), hgone hfits']
      have hheld'' : Holds n disk₃ (Log.mk file' queueFormat options.syncOnWrite).store disk₃ _ :=
        hheld'.rebase
      rcases maintainWith_cases (h.keeps halters.keeps) halters.tidy hfits hentry' htemporary rfl
          hheld'' hreplays options with
        ⟨log', disk₄, hmaintain', hlog, halters₄, -⟩ | ⟨e, hmaintain'⟩
      · rw [hmaintain] at hmaintain'
        cases hmaintain'
        exact ⟨log, rfl, hlog, halters.trans halters₄⟩
      · rw [hmaintain] at hmaintain'
        cases hmaintain'
    · rw [hopen] at hopen'
      cases hopen'
  · rw [hstale] at hstale'
    cases hstale'

/-- **Opening a queue file that was left in order** gives back what was pending. Where it fails, the
file still says the same. -/
theorem openFile_of_says {pending : List Message} (h : disk.IsFilePath path here name)
    (htidy : disk.Tidy here) (hsaid : FileSays disk here name pending)
    (hnone : disk.entry? (here ++ [temporaryName name]) = none) (options : StoreOptions) :
    (∃ queue disk', openFile path options disk = .ok queue disk' ∧ queue.pending = pending ∧
        disk'.entry? (here ++ [temporaryName name]) = none) ∨
      ∃ e disk', openFile path options disk = .error e disk' ∧
        Alters here [name, temporaryName name] disk disk' ∧ FileSays disk' here name pending ∧
        disk'.entry? (here ++ [temporaryName name]) = none := by
  rw [openFile, openFileWith_eq, h.removeStale_of_none hnone]
  dsimp only
  rcases openWithDirectories_cases h htidy with
    ⟨hfits, file, n, disk', image, hopen, hentry, hheld, halters, hbefore⟩ | ⟨-, e, hopen⟩
  · have hempty (hnew : pending = []) :
        ∃ replay, Replays [] replay ∧ replay.pending.toList = pending := by
      rw [hnew]
      exact ⟨{}, .nil, rfl⟩
    obtain ⟨replay, hreplays, hpending⟩ := holds_of_opened hempty hheld hbefore hsaid.missing_or
    obtain ⟨found, hscan, hwhole, hreplay⟩ := id hreplays
    have hgone : disk'.entry? (here ++ [temporaryName name]) = none := by
      rw [halters.entry (by simp [temporaryName_ne]), hnone]
    rw [hopen]
    dsimp only
    rw [Log.recover_of_whole ((contract _ _).readAll hheld) hscan hwhole]
    dsimp only
    rw [hreplay]
    dsimp only
    have hheld' : Holds n disk' (Log.mk file queueFormat options.syncOnWrite).store disk' image := hheld
    rcases maintainWith_cases (h.keeps halters.keeps) halters.tidy hfits hentry (fun _ => hgone) rfl
        hheld' hreplays options with ⟨log, disk'', hmaintain, -, -, hgone'⟩ | ⟨e, hmaintain⟩
    · rw [hmaintain]
      exact .inl ⟨_, _, rfl, hpending, hgone' hgone⟩
    · rw [hmaintain]
      exact .inr ⟨_, _, rfl, halters.mono (by simp),
        .inr ⟨n, image, replay, hentry, hheld.bytes, hreplays, hpending⟩, hgone⟩
  · rw [hopen]
    exact .inr ⟨_, _, rfl, .refl htidy _, hsaid, hnone⟩

/-! ## Calls -/

/-- A queue that is open on the file under its name, which says what is pending. -/
def InFile (queue : Queue OpenFile) (disk : FileSystem) (here : Place) (name : String) : Prop :=
  ∃ log, queue.log = some log ∧ LogInFile log disk here name queue.pending

theorem InFile.alters {touched : List String} (h : queue.InFile disk here name)
    (halters : Alters here touched disk disk') (hname : name ∉ touched) :
    queue.InFile disk' here name := by
  obtain ⟨log, hlog, hfile⟩ := h
  exact ⟨log, hlog, hfile.alters halters hname⟩

theorem InFile.isClosed (h : queue.InFile disk here name) : queue.isClosed = false := by
  obtain ⟨log, hlog, -⟩ := h
  rw [Queue.isClosed, hlog, Option.isNone_some]

theorem InFile.agrees (h : queue.InFile disk here name) :
    ∃ n, disk.entry? (here ++ [name]) = some (.file n) ∧ Agrees (contract n disk) queue disk := by
  obtain ⟨log, hlog, hformat, n, image, replay, hentry, hheld, hreplays, hpending⟩ := h
  exact ⟨n, hentry, log, hlog, hformat, image, replay, hheld, hreplays, hpending⟩

theorem inFile_of_agrees (htidy : disk.Tidy here) (hentry : disk.entry? (here ++ [name]) = some (.file n))
    (h : Agrees (contract n disk) queue disk') :
    queue.InFile disk' here name ∧ Alters here [name] disk disk' := by
  obtain ⟨log, hlog, hformat, image, replay, hheld, hreplays, hpending⟩ := h
  refine ⟨⟨log, hlog, hformat, n, image, replay, ?_, hheld.rebase, hreplays, hpending⟩,
    alters_of_holds htidy hentry hheld⟩
  rw [hheld.entry?_eq, hentry]

theorem InFile.cutsBack (h : queue.InFile disk here name) (kind : RecordKind) (payload : Bytes) :
    queue.CutsBack disk kind payload := by
  obtain ⟨log, hlog, -, n, image, replay, -, hheld, -⟩ := h
  intro log' hlog' frame hencode
  rw [hlog] at hlog'
  cases hlog'
  obtain ⟨-, rfl⟩ := Frame.encode_eq_ok_iff.1 hencode
  exact Log.rollsBack_of_file hheld.isOn disk (Frame.toBytes_ne_nil _ _ _)

theorem InFile.enqueue_ok {message : Message} {a : Unit} (h : queue.InFile disk here name)
    (htidy : disk.Tidy here) (hrun : enqueue message (queue, disk) = .ok a (queue', disk')) :
    queue'.InFile disk' here name ∧ Alters here [name] disk disk' ∧
      queue'.pending = queue.pending ++ [message] := by
  obtain ⟨n, hentry, hagrees⟩ := h.agrees
  obtain ⟨hagrees', hpending⟩ := Queue.enqueue_ok hagrees hrun
  obtain ⟨hfile, halters⟩ := inFile_of_agrees htidy hentry hagrees'
  exact ⟨hfile, halters, hpending⟩

theorem InFile.enqueue_of_fits {message : Message} (h : queue.InFile disk here name)
    (hfits : message.Fits) : ∃ s, enqueue message (queue, disk) = .ok () s := by
  obtain ⟨log, hlog, -, n, image, replay, -, hheld, -⟩ := h
  rw [enqueue_eq hlog, hfits.encode]
  dsimp only
  rw [Log.append_file hheld.isOn, if_neg (Nat.not_lt.2 hfits)]
  exact ⟨_, rfl⟩

theorem InFile.enqueue_error {message : Message} {e : StoreError} (h : queue.InFile disk here name)
    (htidy : disk.Tidy here) (hrun : enqueue message (queue, disk) = .error e (queue', disk')) :
    queue'.InFile disk' here name ∧ Alters here [name] disk disk' ∧
      queue'.pending = queue.pending := by
  obtain ⟨n, hentry, hagrees⟩ := h.agrees
  obtain ⟨hagrees', hpending⟩ := Queue.enqueue_error hagrees (h.cutsBack _ _) hrun
  obtain ⟨hfile, halters⟩ := inFile_of_agrees htidy hentry hagrees'
  exact ⟨hfile, halters, hpending⟩

theorem InFile.enqueue_error_isClosed {message : Message} {e : StoreError}
    (h : queue.InFile disk here name) (hrun : enqueue message (queue, disk) = .error e (queue', disk')) :
    e.isClosed = false := by
  obtain ⟨log, hlog, -⟩ := h
  rw [enqueue_eq hlog] at hrun
  split at hrun
  · rename_i hencode
    cases hrun
    exact Message.encode_error_isClosed hencode
  · split at hrun
    · rename_i happend
      cases hrun
      exact Log.append_error_isClosed happend
    · cases hrun

/-- **Dequeuing in a file** depends on the bytes of that file and changes nothing else. -/
theorem dequeue_file {log : Log OpenFile} {head : Message} {rest : List Message}
    (hlog : queue.log = some log) (hon : log.store.IsOn n) (hcons : queue.pending = head :: rest)
    (image : Bytes) :
    ∃ file image', file.IsOn n ∧ ∀ disk, disk.bytes n = image →
      dequeue (queue, disk) =
        .ok (some head) ({ queue with log := some { log with store := file }, pending := rest },
          disk.setBytes n image') := by
  have hfits : ¬ Frame.maxPayload < (QueueReplay.dequeuePayload head.id).length := by
    rw [QueueReplay.length_dequeuePayload]
    decide
  let frame := Frame.toBytes log.format.magic .dequeue (QueueReplay.dequeuePayload head.id)
  let appended : Log OpenFile := { log with store := log.store.resized (log.store.size + frame.length) }
  by_cases hrest : rest = []
  · refine ⟨log.store.resized 0, [], hon, fun disk _ => ?_⟩
    rw [dequeue_of_cons hlog hcons, Log.append_file hon, if_neg hfits]
    dsimp only
    rw [resetDrained_eq rfl, if_pos hrest, Log.reset_file (show appended.store.IsOn n from hon),
      setBytes_setBytes]
    rfl
  · refine ⟨log.store.resized (log.store.size + frame.length), image ++ frame, hon, ?_⟩
    intro disk hbytes
    rw [dequeue_of_cons hlog hcons, Log.append_file hon, if_neg hfits]
    dsimp only
    rw [resetDrained_eq rfl, if_neg hrest, hbytes]

theorem InFile.dequeue_cases (h : queue.InFile disk here name) (htidy : disk.Tidy here) :
    ∃ queue' disk', dequeue (queue, disk) = .ok queue.pending.head? (queue', disk') ∧
      queue'.InFile disk' here name ∧ Alters here [name] disk disk' ∧
      queue'.pending = queue.pending.tail := by
  have hok : ∃ given queue' disk', dequeue (queue, disk) = .ok given (queue', disk') := by
    obtain ⟨log, hlog, -, n, image, replay, -, hheld, -⟩ := id h
    cases hpending : queue.pending with
    | nil => exact ⟨_, _, _, dequeue_of_nil hlog hpending disk⟩
    | cons head rest =>
      obtain ⟨file, image', -, hrun⟩ := dequeue_file hlog hheld.isOn hpending (disk.bytes n)
      exact ⟨_, _, _, hrun disk rfl⟩
  obtain ⟨given, queue', disk', hrun⟩ := hok
  obtain ⟨n, hentry, hagrees⟩ := h.agrees
  obtain ⟨hagrees', rfl, hpending⟩ := Queue.dequeue_ok hagrees hrun
  obtain ⟨hfile, halters⟩ := inFile_of_agrees htidy hentry hagrees'
  exact ⟨queue', disk', hrun, hfile, halters, hpending⟩

theorem close_file {log : Log OpenFile} (hlog : queue.log = some log) (hon : log.store.IsOn n)
    (disk : FileSystem) : close (queue, disk) = .ok () ({ queue with log := none }, disk) := by
  unfold close
  dsimp only
  rw [hlog]
  dsimp only
  rw [Log.sync_file hon]

end Replica.Queue
