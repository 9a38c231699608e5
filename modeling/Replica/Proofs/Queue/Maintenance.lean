/-
What opening a queue file does to the file.

Opening reads what the bytes say, cuts a torn record off, and then leaves the log,
drops it or compacts it. Each of the three leaves a log that says the same and is
trimmed (`Trimmed`): it holds no more messages given out than the threshold allows,
and nothing at all if nothing is pending. A compacting that fails on its own leaves
a file that still says the same (`openFileWith_cases`).
-/
import Replica.Proofs.Disk.Resolution
import Replica.Proofs.Queue.File
import Replica.Proofs.Queue.Opening

namespace Replica.Queue

open FileSystem OpenFile

variable {disk disk' : FileSystem} {path : String} {here : Place} {name : String} {n : Nat}
  {image : Bytes} {pending : List Message} {log : Log OpenFile} {replay : QueueReplay}
  {options : StoreOptions} {mishap : Option Replacement.Mishap}

/-! ## Images -/

/-- **A log that was taken care of**: it replays to what is pending, holds at most `threshold`
messages that were given out, and no byte if nothing is pending. -/
def Trimmed (threshold : Nat) (pending : List Message) (image : Bytes) : Prop :=
  ∃ replay, Replays image replay ∧ replay.pending.toList = pending ∧ replay.consumed ≤ threshold ∧
    (pending = [] → image = [])

theorem trimmed_nil (threshold : Nat) : Trimmed threshold [] [] :=
  ⟨{}, .nil, rfl, Nat.zero_le _, fun _ => rfl⟩

theorem trimmed_compactImage (h : compactImage pending = .ok image) (threshold : Nat) :
    Trimmed threshold pending image := by
  obtain ⟨replay, hreplays, hconsumed, hpending⟩ := replays_compactImage h
  exact ⟨replay, hreplays, hpending, by omega,
    fun hnone => hreplays.eq_nil (hpending.trans hnone) hconsumed⟩

theorem trimmed_of_replays (h : Replays image replay)
    (hkept : ¬ (replay.pending.length = 0 ∧ 0 < replay.consumed)) {threshold : Nat}
    (hfull : ¬ threshold < replay.consumed) : Trimmed threshold replay.pending.toList image := by
  refine ⟨replay, h, rfl, Nat.le_of_not_lt hfull, fun hnone => h.eq_nil hnone ?_⟩
  have hlen := congrArg List.length hnone
  rw [Fifo.length_toList, List.length_nil] at hlen
  omega

theorem Trimmed.opensTo {threshold : Nat} (h : Trimmed threshold pending image) :
    ∃ replay, OpensTo image replay ∧ replay.pending.toList = pending := by
  obtain ⟨replay, hreplays, hpending, -⟩ := h
  exact ⟨replay, hreplays.opensTo, hpending⟩

/-! ## Files -/

/-- **What a queue file opens to**: a missing file to nothing, and a file to what its bytes say, of
which the last may be torn. -/
def FileOpensTo (disk : FileSystem) (here : Place) (name : String) (pending : List Message) : Prop :=
  (disk.entry? (here ++ [name]) = none ∧ pending = []) ∨
    ∃ image replay, disk.HasFile here name image ∧ OpensTo image replay ∧
      replay.pending.toList = pending

/-- What is pending at a path: what the bytes of the file open to, or nothing if there is none. -/
def PathOpensTo (disk : FileSystem) (path : String) (pending : List Message) : Prop :=
  (disk.exists path = false ∧ pending = []) ∨
    ∃ image replay, disk.readAll path = .ok image ∧ OpensTo image replay ∧
      replay.pending.toList = pending

theorem PathOpensTo.fileOpensTo (h : PathOpensTo disk path pending) (hnames : disk.Names path here name)
    (hfits : Route.Fits path) (htidy : disk.Tidy here) : FileOpensTo disk here name pending := by
  rcases h with ⟨hnew, hpending⟩ | ⟨image, replay, hread, hopens, hpending⟩
  · exact .inl ⟨hnames.entry?_of_not_exists hfits hnew, hpending⟩
  · exact .inr ⟨image, replay, hnames.hasFile_of_readAll hfits htidy hread, hopens, hpending⟩

/-- A log that is open on the file under a name, and the bytes in it. -/
def LogOn (log : Log OpenFile) (disk : FileSystem) (here : Place) (name : String) (image : Bytes) :
    Prop :=
  log.format = queueFormat ∧ ∃ n, disk.entry? (here ++ [name]) = some (.file n) ∧
    Holds n disk log.store disk image

theorem LogOn.hasFile (h : LogOn log disk here name image) : disk.HasFile here name image := by
  obtain ⟨-, n, hentry, hheld⟩ := h
  exact ⟨n, hentry, hheld.bytes⟩

theorem FileOpensTo.of_trimmed {threshold : Nat} (h : Trimmed threshold pending image)
    (hfile : disk.HasFile here name image) : FileOpensTo disk here name pending := by
  obtain ⟨replay, hopens, hpending⟩ := h.opensTo
  exact .inr ⟨image, replay, hfile, hopens, hpending⟩

theorem FileOpensTo.missing_or (h : FileOpensTo disk here name pending) :
    (disk.entry? (here ++ [name]) = none ∧ pending = []) ∨
      ∃ n image, disk.entry? (here ++ [name]) = some (.file n) ∧ disk.contents.get? n = some image ∧
        ∃ replay, OpensTo image replay ∧ replay.pending.toList = pending := by
  rcases h with hnone | ⟨image, replay, ⟨n, hentry, hbytes⟩, hopens, hpending⟩
  · exact .inl hnone
  · exact .inr ⟨n, image, hentry, hbytes, replay, hopens, hpending⟩

theorem FileOpensTo.alters {touched : List String} (h : FileOpensTo disk here name pending)
    (halters : Alters here touched disk disk') (hname : name ∉ touched) :
    FileOpensTo disk' here name pending := by
  rcases h with ⟨hnone, hpending⟩ | ⟨image, replay, hfile, hopens, hpending⟩
  · exact .inl ⟨by rw [halters.entry hname, hnone], hpending⟩
  · exact .inr ⟨image, replay, hfile.alters halters hname, hopens, hpending⟩

theorem FileOpensTo.not_directory (h : FileOpensTo disk here name pending) :
    disk.entry? (here ++ [name]) ≠ some .directory := by
  rcases h with ⟨hnew, -⟩ | ⟨image, replay, hfile, -⟩
  · simp [hnew]
  · exact hfile.ne_directory

/-! ## Opening, up to the care taken of the log -/

/-- **A file that opens to something** is opened and its log recovered: that replays to what is
pending, and a torn record is no longer in it. -/
theorem recovered (h : disk.Replaceable path here name) (hopens : FileOpensTo disk here name pending)
    (options : StoreOptions) :
    ∃ file disk₁ file' disk₂ records image replay, openWithDirectories path disk = .ok file disk₁ ∧
      Log.recover queueFormat (file, disk₁) = .ok records (file', disk₂) ∧
      replayQueue records = .ok replay ∧ replay.pending.toList = pending ∧
      Replays image replay ∧ LogOn ⟨file', queueFormat, options.syncOnWrite⟩ disk₂ here name image ∧
      Alters here [name] disk disk₂ := by
  rcases openWithDirectories_cases h.isFilePath h.tidy with
    ⟨-, file, n, disk₁, image, hopen, hentry, hheld, halters₁, hbefore⟩ | ⟨hdirectory, -⟩
  · have hempty (hnew : pending = []) :
        ∃ replay, OpensTo [] replay ∧ replay.pending.toList = pending := by
      rw [hnew]
      exact ⟨{}, Replays.nil.opensTo, rfl⟩
    obtain ⟨replay, ⟨found, hscan, hreplay⟩, hpending⟩ :=
      holds_of_opened hempty hheld hbefore hopens.missing_or
    obtain ⟨file', disk₂, hrecover, hheld', hwalk⟩ := Log.recover_file hheld hscan
    have hentry' : disk₂.entry? (here ++ [name]) = some (.file n) := by
      rw [hheld'.entry?_eq, hentry]
    exact ⟨file, disk₁, file', disk₂, _, image.take found.validLength, replay, hopen, hrecover, hreplay,
      hpending, ⟨_, hwalk.scanFrom_eq_ok, rfl, hreplay⟩, ⟨rfl, n, hentry', hheld'.rebase⟩,
      halters₁.trans (alters_of_holds halters₁.tidy hentry hheld')⟩
  · exact absurd (hdirectory h.fits) h.target

theorem LogOn.replaceable (hlog : LogOn log disk' here name image)
    (h : disk.Replaceable path here name) (halters : Alters here [name] disk disk') :
    disk'.Replaceable path here name := by
  obtain ⟨n, hentry, -⟩ := hlog.hasFile
  exact ⟨h.isFilePath.keeps halters.keeps, halters.tidy, h.fits, h.fitsTemporary, by simp [hentry],
    by rw [halters.entry (by simp [temporaryName_ne])]; exact h.temporary⟩

/-- Up to there opening leaves a log that replays to what is pending, and no temporary file. -/
theorem openFileWith_eq_maintainWith (h : disk.Replaceable path here name)
    (hopens : FileOpensTo disk here name pending) (mishap : Option Replacement.Mishap)
    (options : StoreOptions) :
    ∃ disk₁ log image replay, disk₁.Replaceable path here name ∧
      disk₁.entry? (here ++ [temporaryName name]) = none ∧ LogOn log disk₁ here name image ∧
      Replays image replay ∧ replay.pending.toList = pending ∧
      openFileWith mishap path options disk =
        match maintainWith mishap path options replay log disk₁ with
        | .error e disk' => .error e disk'
        | .ok log' disk' => .ok ⟨some path, some log', pending⟩ disk' := by
  obtain ⟨removed, disk₁, hstale, hundone, hgone₁⟩ := h.removeStale
  have h₁ := hundone.replaceable h
  obtain ⟨file, disk₂, file', disk₃, records, image, replay, hopen, hrecover, hreplay, hpending,
      hreplays, hlog, halters⟩ :=
    recovered h₁ (hopens.alters hundone.alters (name_not_mem_temporary name)) options
  have hgone₃ : disk₃.entry? (here ++ [temporaryName name]) = none := by
    rw [halters.entry (by simp [temporaryName_ne]), hgone₁]
  refine ⟨disk₃, _, image, replay, hlog.replaceable h₁ halters, hgone₃, hlog, hreplays, hpending, ?_⟩
  rw [openFileWith_eq, hstale]
  dsimp only
  rw [hopen]
  dsimp only
  rw [hrecover]
  dsimp only
  rw [hreplay]
  dsimp only
  subst hpending
  cases maintainWith mishap path options replay _ disk₃ <;> rfl

/-! ## The care taken of the log -/

/-- What has become of a queue file, if no mishap kept it from being opened. -/
structure Kept (disk : FileSystem) (path : String) (here : Place) (name : String) (threshold : Nat)
    (pending : List Message) (log : Log OpenFile) : Prop where
  replaceable : disk.Replaceable path here name
  gone : disk.entry? (here ++ [temporaryName name]) = none
  trimmed : ∃ image, LogOn log disk here name image ∧ Trimmed threshold pending image

/-- What has become of a queue file that a mishap kept from being opened. -/
structure Spared (disk : FileSystem) (path : String) (here : Place) (name : String)
    (pending : List Message) : Prop where
  replaceable : disk.Replaceable path here name
  opens : FileOpensTo disk here name pending

theorem Kept.spared {threshold : Nat} (h : Kept disk path here name threshold pending log) :
    Spared disk path here name pending := by
  obtain ⟨image, hlog, htrimmed⟩ := h.trimmed
  exact ⟨h.replaceable, .of_trimmed htrimmed hlog.hasFile⟩

/-- **Compacting** makes a trimmed log, unless a mishap stops it; then the file says the same, in the
old words or in the new. -/
theorem compactWith_kept (h : disk.Replaceable path here name)
    (hopens : FileOpensTo disk here name pending) (hfits : ∀ message ∈ pending, message.Fits)
    (mishap : Option Replacement.Mishap) (options : StoreOptions) :
    (∃ log disk', compactWith mishap path pending options disk = .ok log disk' ∧
        Kept disk' path here name options.compactThreshold pending log) ∨
      ∃ m e disk', mishap = some m ∧ compactWith mishap path pending options disk = .error e disk' ∧
        Spared disk' path here name pending := by
  obtain ⟨image, himage⟩ := compactImage_of_fits hfits
  have htrimmed := trimmed_compactImage himage options.compactThreshold
  rw [compactWith_eq, himage]
  dsimp only
  rcases h.replaceWith_cases mishap image with
    ⟨disk₁, hreplace, -, hdone⟩ | ⟨m, disk', hmishap, hreplace, hstopped⟩
  · have h₁ := hdone.replaceable h
    obtain ⟨file, n, hopen, hentry, hheld⟩ :=
      open_of_hasFile h₁.isFilePath.names h.fits h₁.tidy hdone.file
    obtain ⟨replay, ⟨found, hscan, hwhole, -⟩, -⟩ := id htrimmed
    rw [hreplace]
    dsimp only
    rw [hopen]
    dsimp only
    rw [Log.recover_of_whole ((contract _ _).readAll hheld) hscan hwhole]
    exact .inl ⟨_, _, rfl, h₁, hdone.gone, image, ⟨rfl, n, hentry, hheld⟩, htrimmed⟩
  · rw [hreplace]
    refine .inr ⟨m, _, disk', hmishap, rfl, ?_⟩
    rcases hstopped with ⟨-, hundone⟩ | ⟨-, hdone⟩
    · exact ⟨hundone.replaceable h, hopens.alters hundone.alters (name_not_mem_temporary name)⟩
    · exact ⟨hdone.replaceable h, .of_trimmed htrimmed hdone.file⟩

/-- **The care taken of a log** makes it trimmed, unless a mishap stops it. -/
theorem maintainWith_kept (h : disk.Replaceable path here name)
    (hgone : disk.entry? (here ++ [temporaryName name]) = none) (hlog : LogOn log disk here name image)
    (hreplays : Replays image replay) (mishap : Option Replacement.Mishap) (options : StoreOptions) :
    (∃ log' disk', maintainWith mishap path options replay log disk = .ok log' disk' ∧
        Kept disk' path here name options.compactThreshold replay.pending.toList log') ∨
      ∃ m e disk', mishap = some m ∧ maintainWith mishap path options replay log disk = .error e disk' ∧
        Spared disk' path here name replay.pending.toList := by
  rw [maintainWith_eq]
  by_cases hdrained : replay.pending.length = 0 ∧ 0 < replay.consumed
  · obtain ⟨hformat, n, hentry, hheld⟩ := hlog
    have halters := alters_setBytes h.tidy hentry []
    have hempty : replay.pending.toList = [] := by
      rw [← List.length_eq_zero_iff, Fifo.length_toList]
      exact hdrained.1
    rw [if_pos hdrained, Log.reset_file hheld.isOn, hempty]
    have hdropped : LogOn { log with store := log.store.resized 0 } (disk.setBytes n []) here name [] :=
      ⟨hformat, n, hentry, (hheld.setBytes []).rebase⟩
    exact .inl ⟨_, _, rfl, hdropped.replaceable h halters, hgone, [], hdropped, trimmed_nil _⟩
  · rw [if_neg hdrained]
    by_cases hfull : options.compactThreshold < replay.consumed
    · rw [if_pos hfull]
      exact compactWith_kept h (.inr ⟨image, replay, hlog.hasFile, hreplays.opensTo, rfl⟩)
        hreplays.fits mishap options
    · rw [if_neg hfull]
      exact .inl ⟨log, disk, rfl, h, hgone, image, hlog, trimmed_of_replays hreplays hdrained hfull⟩

/-! ## Opening -/

/-- **Opening a queue file** gives what the file opens to and leaves a trimmed log that says the same,
unless a mishap stops the compacting; then the file still opens to it. -/
theorem openFileWith_cases (h : disk.Replaceable path here name)
    (hopens : FileOpensTo disk here name pending) (mishap : Option Replacement.Mishap)
    (options : StoreOptions) :
    (∃ log disk', openFileWith mishap path options disk = .ok ⟨some path, some log, pending⟩ disk' ∧
        Kept disk' path here name options.compactThreshold pending log) ∨
      ∃ m e disk', mishap = some m ∧ openFileWith mishap path options disk = .error e disk' ∧
        Spared disk' path here name pending := by
  obtain ⟨disk₁, log, image, replay, h₁, hgone, hlog, hreplays, rfl, hrun⟩ :=
    openFileWith_eq_maintainWith h hopens mishap options
  rw [hrun]
  rcases maintainWith_kept h₁ hgone hlog hreplays mishap options with
    ⟨log', disk', hmaintain, hkept⟩ | ⟨m, e, disk', hmishap, hmaintain, hspared⟩
  · rw [hmaintain]
    exact .inl ⟨log', disk', rfl, hkept⟩
  · rw [hmaintain]
    exact .inr ⟨m, e, disk', hmishap, rfl, hspared⟩

theorem openFile_kept (h : disk.Replaceable path here name)
    (hopens : FileOpensTo disk here name pending) (options : StoreOptions) :
    ∃ log disk', openFile path options disk = .ok ⟨some path, some log, pending⟩ disk' ∧
      Kept disk' path here name options.compactThreshold pending log := by
  rcases openFileWith_cases h hopens none options with hopened | ⟨m, e, disk', hmishap, -⟩
  · exact hopened
  · cases hmishap

theorem opensTo_of_openFile {queue : Queue OpenFile} (h : disk.Replaceable path here name)
    (hfile : disk.HasFile here name image) (hrun : openFile path options disk = .ok queue disk') :
    ∃ replay, OpensTo image replay := by
  obtain ⟨removed, disk₁, file, disk₂, records, file', disk₃, replay, log, hstale, hopen, hrecover,
    hreplay, -⟩ := openFileWith_ok hrun
  obtain ⟨removed', disk₁', hstale', hundone, -⟩ := h.removeStale
  rw [hstale] at hstale'
  cases hstale'
  have h₁ := hundone.replaceable h
  obtain ⟨m, hentry₁, hbytes₁⟩ := hfile.alters hundone.alters (name_not_mem_temporary name)
  rcases openWithDirectories_cases h₁.isFilePath h₁.tidy with
    ⟨-, file₁, n, disk₂', image', hopen', -, hheld, -, hbefore⟩ | ⟨-, e, hopen'⟩
  · rw [hopen] at hopen'
    cases hopen'
    have hempty (hnone : False) : image = [] := hnone.elim
    have hsame : image = image' :=
      holds_of_opened hempty hheld hbefore (.inr ⟨m, image, hentry₁, hbytes₁, rfl⟩)
    obtain ⟨found, hscan, rfl, -⟩ :=
      @Log.recover_ok _ _ _ (contract n disk₂) _ _ _ _ _ _ _ hheld hrecover
    exact ⟨replay, found, hsame.symm ▸ hscan, hreplay⟩
  · rw [hopen] at hopen'
    cases hopen'

/-- **After an interrupted opening** the next one gives the same, and leaves no temporary file. -/
theorem openFile_of_interrupted (h : disk.Replaceable path here name)
    (hopens : FileOpensTo disk here name pending) (mishap : Option Replacement.Mishap)
    (options options' : StoreOptions) :
    ∃ log disk', openFile path options' (outcome (openFileWith mishap path options) disk).2 =
        .ok ⟨some path, some log, pending⟩ disk' ∧
      Kept disk' path here name options'.compactThreshold pending log := by
  have hspared : Spared (outcome (openFileWith mishap path options) disk).2 path here name pending := by
    rcases openFileWith_cases h hopens mishap options with
      ⟨log, disk', hrun, hkept⟩ | ⟨m, e, disk', -, hrun, hspared⟩
    · rw [outcome, hrun]
      exact hkept.spared
    · rw [outcome, hrun]
      exact hspared
  exact openFile_kept hspared.replaceable hspared.opens options'

end Replica.Queue
