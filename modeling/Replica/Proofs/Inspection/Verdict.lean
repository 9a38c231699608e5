/-
What the inspections say of a store file, and what opening it does.

A file is corrupt for the verification exactly if opening it fails, with the same words;
torn where opening cuts the log; missing where opening makes the file; and intact where
opening takes it as it is (`Verdict`). That holds of every directory in which each store
file is a regular file or missing and no temporary file is left (`verify_agrees`).
-/
import Mathlib.Control.Monad.Basic
import Replica.Inspection.Summary
import Replica.Inspection.Verification
import Replica.Proofs.Coordinator.FileStores
import Replica.Proofs.Coordinator.Opening

namespace Replica

open FileSystem

section Verdicts

variable {α β γ : Type} {disk : FileSystem} {path : String} {here : Place} {name : String}
  {image : Bytes} {opening : EStateM StoreError FileSystem α}

/-! ## Verdicts -/

/-- **What a status says is what opening the file does.** `whole` is what opening does that reads so
many records and takes the file as it is, and `cut` what opening does that reads so many records and
cuts the file off at an offset. -/
structure Verdict (disk : FileSystem) (path : String) (opening : EStateM StoreError FileSystem α)
    (whole : Nat → Prop) (cut : Nat → Nat → Prop) (status : FileStatus) : Prop where
  corrupt (text : String) :
    status = .corrupt text ↔ ∃ e disk', opening disk = .error e disk' ∧ e.message = text
  torn (records offset : Nat) :
    (∃ reason, status = .torn records offset reason) ↔
      (∃ a disk', opening disk = .ok a disk') ∧ cut records offset
  missing :
    status = .missing ↔
      disk.exists path = false ∧ ∃ a disk', opening disk = .ok a disk' ∧ disk'.exists path = true
  intact (records : Nat) :
    status = .intact records ↔
      (∃ a disk', opening disk = .ok a disk') ∧ disk.exists path = true ∧ whole records

/-- Opening comes to the same as reading: it fails with the same error, or the file is there. -/
def OpensAs (opening : EStateM StoreError FileSystem α) (disk : FileSystem) (path : String) :
    Except StoreError γ → Prop
  | .error e => ∃ disk', opening disk = .error e disk'
  | .ok _ => ∃ a disk', opening disk = .ok a disk' ∧ disk'.exists path = true

/-- The log at a path is read and taken as it is. -/
def Whole (disk : FileSystem) (path : String) (format : LogFormat) (records : Nat) : Prop :=
  ∃ found before, found.length = records ∧ Recovers disk path format found before before

/-- The log at a path is read and cut off at an offset. -/
def Cut (disk : FileSystem) (path : String) (format : LogFormat) (records offset : Nat) : Prop :=
  ∃ found before, found.length = records ∧ offset < before.length ∧
    Recovers disk path format found before (before.take offset)

/-! ## Verdicts of logs -/

section Cases

variable {whole : Nat → Prop} {cut : Nat → Nat → Prop} {e : StoreError} {disk' : FileSystem} {a : α}

theorem verdict_corrupt (hrun : opening disk = .error e disk') :
    Verdict disk path opening whole cut (.corrupt e.message) := by
  refine ⟨fun text => ?_, fun records offset => ?_, ?_, fun records => ?_⟩ <;> simp [hrun]

theorem verdict_missing (hrun : opening disk = .ok a disk') (hnew : disk.exists path = false)
    (hthere : disk'.exists path = true) (hcut : ∀ records offset, ¬ cut records offset) :
    Verdict disk path opening whole cut .missing := by
  refine ⟨fun text => ?_, fun records offset => ?_, ?_, fun records => ?_⟩
  · simp [hrun]
  · simp [hcut]
  · exact ⟨fun _ => ⟨hnew, a, disk', hrun, hthere⟩, fun _ => rfl⟩
  · simp [hnew]

theorem verdict_torn (hrun : opening disk = .ok a disk') (hthere : disk.exists path = true)
    {records offset : Nat} (reason : TornReason)
    (hcut : ∀ r o, cut r o ↔ records = r ∧ offset = o) (hwhole : ∀ r, ¬ whole r) :
    Verdict disk path opening whole cut (.torn records offset reason) := by
  refine ⟨fun text => ?_, fun r o => ?_, ?_, fun r => ?_⟩ <;> simp [hrun, hthere, hcut, hwhole]

theorem verdict_intact (hrun : opening disk = .ok a disk') (hthere : disk.exists path = true)
    {records : Nat} (hwhole : ∀ r, whole r ↔ records = r) (hcut : ∀ r o, ¬ cut r o) :
    Verdict disk path opening whole cut (.intact records) := by
  refine ⟨fun text => ?_, fun r o => ?_, ?_, fun r => ?_⟩ <;> simp [hrun, hthere, hcut, hwhole]

end Cases

/-! ## Looking at a log -/

theorem readLog_of_missing {format : LogFormat} (h : disk.exists path = false) :
    Inspection.readLog disk path format = .ok none := by
  rw [Inspection.readLog, h]
  rfl

theorem readAll_readOnly (path : String) (n : Nat) (disk : FileSystem) :
    ByteStore.readAll (OpenFile.ofEntry path true (.file n) disk) disk = .ok (disk.bytes n) :=
  @OpenFile.readAll_eq (OpenFile.ofEntry path false (.file n) disk) disk n ⟨rfl, rfl⟩ rfl

/-- **Looking at a log** scans its bytes. -/
theorem readLog_of_file {format : LogFormat} (h : disk.Content path here name image)
    (hfile : disk.HasFile here name image) :
    Inspection.readLog disk path format = ((scan format image).mapError .store).map some := by
  have hthere := h.exists_of_file hfile
  obtain ⟨n, hentry, hbytes⟩ := hfile
  have hopen : OpenFile.openReadOnly path disk =
      .ok (OpenFile.ofEntry path true (.file n) disk) disk := by
    simp only [OpenFile.openReadOnly, bind, EStateM.bind, h.isFilePath.names.openRead h.fits hentry]
    rfl
  rw [Inspection.readLog, hthere, if_neg (by simp), hopen]
  dsimp only
  rw [readAll_readOnly, bytes_of_get? hbytes]
  dsimp only
  cases scan format image <;> rfl

/-! ## Logs -/

section Logs

variable {β : Type} {format : LogFormat} {replay : List LogRecord → Except StoreError β}
  {found : Scan} {records offset : Nat}

theorem whole_iff_of_whole (h : disk.Content path here name image)
    (hscan : scan format image = .ok found) (hwhole : found.tornTail = none) :
    Whole disk path format records ↔ found.records.length = records := by
  have hlen := (scanFrom_eq_ok_iff.1 hscan).validLength_of_whole hwhole
  have htake : image.take found.validLength = image := List.take_of_length_le (by omega)
  constructor
  · rintro ⟨read, before, rfl, hrecovers⟩
    obtain ⟨-, found', hscan', hread, -⟩ := h.recovers_iff.1 hrecovers
    rw [hscan] at hscan'
    cases hscan'
    rw [hread]
  · rintro rfl
    exact ⟨found.records, image, rfl, h.recovers_iff.2 ⟨rfl, found, hscan, rfl, htake.symm⟩⟩

theorem not_cut_of_whole (h : disk.Content path here name image)
    (hscan : scan format image = .ok found) (hwhole : found.tornTail = none) :
    ¬ Cut disk path format records offset := by
  have hlen := (scanFrom_eq_ok_iff.1 hscan).validLength_of_whole hwhole
  rintro ⟨read, before, -, hlt, hrecovers⟩
  obtain ⟨rfl, found', hscan', -, htake⟩ := h.recovers_iff.1 hrecovers
  rw [hscan] at hscan'
  cases hscan'
  have hsame := congrArg List.length htake
  rw [List.length_take, List.length_take] at hsame
  omega

theorem not_whole_of_torn (h : disk.Content path here name image)
    (hscan : scan format image = .ok found) {torn : TornTail} (htorn : found.tornTail = some torn) :
    ¬ Whole disk path format records := by
  obtain ⟨-, hlt⟩ := (scanFrom_eq_ok_iff.1 hscan).validLength_of_torn htorn
  rintro ⟨read, before, -, hrecovers⟩
  obtain ⟨rfl, found', hscan', -, htake⟩ := h.recovers_iff.1 hrecovers
  rw [hscan] at hscan'
  cases hscan'
  have hsame := congrArg List.length htake
  rw [List.length_take] at hsame
  omega

theorem cut_iff_of_torn (h : disk.Content path here name image)
    (hscan : scan format image = .ok found) {torn : TornTail} (htorn : found.tornTail = some torn) :
    Cut disk path format records offset ↔
      found.records.length = records ∧ torn.offset = offset := by
  obtain ⟨hoffset, hlt⟩ := (scanFrom_eq_ok_iff.1 hscan).validLength_of_torn htorn
  rw [Nat.zero_add] at hlt
  constructor
  · rintro ⟨read, before, rfl, hlt', hrecovers⟩
    obtain ⟨rfl, found', hscan', hread, htake⟩ := h.recovers_iff.1 hrecovers
    rw [hscan] at hscan'
    cases hscan'
    have hsame := congrArg List.length htake
    rw [List.length_take, List.length_take] at hsame
    exact ⟨by rw [hread], by omega⟩
  · rintro ⟨rfl, rfl⟩
    rw [hoffset]
    exact ⟨found.records, image, rfl, hlt, h.recovers_iff.2 ⟨rfl, found, hscan, rfl, rfl⟩⟩

/-- What an inspection reads of a log: nothing if there is no file, and what its bytes say if there
is one. -/
structure Looks (disk : FileSystem) (path : String) (here : Place) (name : String) (image : Bytes)
    (read : Except InspectionError (Option (Scan × β))) (format : LogFormat)
    (replay : List LogRecord → Except StoreError β) : Prop where
  missing (h : disk.exists path = false) : read = .ok none
  file (h : disk.HasFile here name image) :
    read = match readImage format replay image with
      | .error e => .error (.store e)
      | .ok held => .ok (some held)

/-- **What is said of a log is what opening it does**, if opening comes to the same as reading. -/
theorem verdict_of_log (h : disk.Content path here name image)
    {read : Except InspectionError (Option (Scan × β))}
    (hlooks : Looks disk path here name image read format replay) {empty : β}
    (hempty : replay [] = .ok empty)
    (hopens : OpensAs opening disk path (readImage format replay image)) :
    Verdict disk path opening (Whole disk path format) (Cut disk path format)
      (Verification.logStatus read) := by
  rcases h.bytes with ⟨hnew, rfl⟩ | hfile
  · rw [readImage_eq_ok_iff.2 ⟨scan_nil format, hempty⟩] at hopens
    obtain ⟨a, disk', hrun, hthere⟩ := hopens
    rw [hlooks.missing (h.not_exists hnew)]
    exact verdict_missing hrun (h.not_exists hnew) hthere fun _ _ =>
      not_cut_of_whole h (scan_nil format) rfl
  · rw [hlooks.file hfile]
    cases hread : readImage format replay image with
    | error e =>
      rw [hread] at hopens
      obtain ⟨disk', hrun⟩ := hopens
      exact verdict_corrupt hrun
    | ok held =>
      obtain ⟨found, held⟩ := held
      rw [hread] at hopens
      obtain ⟨a, disk', hrun, -⟩ := hopens
      have hthere := h.exists_of_file hfile
      obtain ⟨hscan, -⟩ := readImage_eq_ok_iff.1 hread
      dsimp only [Verification.logStatus]
      cases htail : found.tornTail with
      | none =>
        exact verdict_intact hrun hthere (fun _ => whole_iff_of_whole h hscan htail) fun _ _ =>
          not_cut_of_whole h hscan htail
      | some torn =>
        exact verdict_torn hrun hthere torn.reason (fun _ _ => cut_iff_of_torn h hscan htail)
          fun _ => not_whole_of_torn h hscan htail

end Logs

/-! ## The three stores -/

theorem exists_of_hasFile (h : disk.Content path here name image) {disk' : FileSystem}
    (hkeeps : Keeps disk disk') {image' : Bytes} (hfile : disk'.HasFile here name image') :
    disk'.exists path = true := by
  obtain ⟨n, hentry, -⟩ := hfile
  exact (h.isFilePath.names.keeps hkeeps).exists_iff.2 ⟨h.fits, by simp [hentry]⟩

theorem Queue.opensAs (h : disk.Content path here name image)
    (hfits : Route.Fits (Path.temporary path))
    (hgone : disk.entry? (here ++ [temporaryName name]) = none) (options : StoreOptions) :
    OpensAs (openFile path options) disk path (readImage queueFormat replayQueue image) := by
  have hplain : disk.entry? (here ++ [temporaryName name]) ≠ some .directory := by simp [hgone]
  cases hread : readImage queueFormat replayQueue image with
  | error e =>
    obtain ⟨e', disk', hrun, -, hsame, -⟩ := openFile_of_unreadable h hread options
    exact ⟨disk', by rw [hrun, hsame hplain]⟩
  | ok read =>
    rcases openFile_of_readable h hread options with
      ⟨log, disk', image', hrun, hlog, -, halters, -⟩ | ⟨e, disk', -, -, -, -, hblocked⟩
    · exact ⟨_, disk', hrun, exists_of_hasFile h halters.keeps hlog.hasFile⟩
    · rcases hblocked with ⟨-, hdirectory⟩ | ⟨hlong, -⟩
      · exact absurd hdirectory hplain
      · exact absurd hfits hlong

theorem History.opensAs (h : disk.Content path here name image) (options : StoreOptions) :
    OpensAs (openFile path options) disk path (readImage historyFormat replayHistory image) := by
  cases hread : readImage historyFormat replayHistory image with
  | error e =>
    obtain ⟨disk', hrun, -⟩ := openFile_of_unreadable h hread options
    exact ⟨disk', hrun⟩
  | ok read =>
    obtain ⟨history, disk', hrun, ⟨n, hentry, -⟩, -, halters⟩ := openFile_of_readable h hread options
    exact ⟨history, disk', hrun,
      (h.isFilePath.names.keeps halters.keeps).exists_iff.2 ⟨h.fits, by simp [hentry]⟩⟩

theorem looks_readQueue
    (h : disk.Content (DataDirectory.queuePath path) here name image) :
    Looks disk (DataDirectory.queuePath path) here name image (Inspection.readQueue disk path)
      queueFormat replayQueue := by
  refine ⟨fun hnew => by rw [Inspection.readQueue, readLog_of_missing hnew], fun hfile => ?_⟩
  rw [Inspection.readQueue, readLog_of_file h hfile, readImage]
  cases scan queueFormat image with
  | error e => rfl
  | ok found =>
    simp only [Except.mapError, Except.map]
    cases replayQueue found.records <;> rfl

theorem looks_readHistory
    (h : disk.Content (DataDirectory.historyPath path) here name image) :
    Looks disk (DataDirectory.historyPath path) here name image (Inspection.readHistory disk path)
      historyFormat replayHistory := by
  refine ⟨fun hnew => by rw [Inspection.readHistory, readLog_of_missing hnew], fun hfile => ?_⟩
  rw [Inspection.readHistory, readLog_of_file h hfile, readImage]
  cases scan historyFormat image with
  | error e => rfl
  | ok found =>
    simp only [Except.mapError, Except.map]
    cases replayHistory found.records <;> rfl

theorem readState_of_missing (h : disk.exists (DataDirectory.statePath path) = false) :
    Inspection.readState disk path = .ok none := by
  rw [Inspection.readState, h]
  rfl

theorem readState_of_file (h : disk.Content (DataDirectory.statePath path) here name image)
    (hfile : disk.HasFile here name image) :
    Inspection.readState disk path = ((Snapshot.decode image).mapError .store).map some := by
  rw [Inspection.readState, h.exists_of_file hfile, if_neg (by simp), StateStore.readSnapshot,
    h.isFilePath.names.readAll h.fits hfile]
  dsimp only
  cases Snapshot.decode image <;> rfl

/-- **What is said of a state file is what opening it does.** -/
theorem verdict_of_state (h : disk.Content (DataDirectory.statePath path) here name image)
    (hfits : Route.Fits (Path.temporary (DataDirectory.statePath path)))
    (hgone : disk.entry? (here ++ [temporaryName name]) = none) (fold : Fold) :
    Verdict disk (DataDirectory.statePath path)
      (StateStore.openFile (DataDirectory.statePath path) fold) (fun records => 1 = records)
      (fun _ _ => False) (Verification.stateStatus (Inspection.readState disk path)) := by
  have hplain : disk.entry? (here ++ [temporaryName name]) ≠ some .directory := by simp [hgone]
  rcases h.bytes with ⟨hnew, -⟩ | hfile
  · have hmissing := h.not_exists hnew
    rw [readState_of_missing hmissing]
    rcases StateStore.openFile_of_missing h.isFilePath h.tidy h.fits hnew fold with
      ⟨disk', hrun, ⟨n, image', hentry, hbytes, -⟩, halters⟩ | ⟨e, disk', -, -, hblocked⟩
    · exact verdict_missing hrun hmissing (exists_of_hasFile h halters.keeps ⟨n, hentry, hbytes⟩)
        fun _ _ => id
    · rcases hblocked with ⟨-, hdirectory⟩ | hlong
      · exact absurd hdirectory hplain
      · exact absurd hfits hlong
  · rw [readState_of_file h hfile]
    cases hread : Snapshot.decode image with
    | error e =>
      obtain ⟨e', disk', hrun, -, hsame⟩ := StateStore.openFile_of_unreadable h hfile hread fold
      obtain rfl := hsame hplain
      exact verdict_corrupt hrun
    | ok snapshot =>
      rcases StateStore.openFile_of_readable h hfile hread fold with
        ⟨disk', hrun, -⟩ | ⟨e, -, -, hdirectory⟩
      · exact verdict_intact hrun (h.exists_of_file hfile) (fun _ => Iff.rfl) fun _ _ => id
      · exact absurd hdirectory hplain

end Verdicts

/-! ## Directories -/

section Directories

open DataDirectory

variable {disk : FileSystem} {path : String}

theorem requireStores_ok (h : disk.exists (queuePath path) = true ∨
      disk.exists (historyPath path) = true ∨ disk.exists (statePath path) = true) :
    Inspection.requireStores disk path = .ok () := by
  rw [Inspection.requireStores]
  exact if_pos (by simpa using h)

theorem exists_ok_iff {ε α : Type} {x : Except ε α} : (∃ a, x = .ok a) ↔ x.isOk = true := by
  cases x <;> simp [Except.isOk, Except.toBool]

theorem isCorrupt_logStatus {α : Type} (read : Except InspectionError (Option (Scan × α))) :
    (Verification.logStatus read).isCorrupt = !read.isOk := by
  unfold Verification.logStatus
  split
  · rfl
  · rfl
  · split <;> rfl

theorem isCorrupt_stateStatus (read : Except InspectionError (Option Snapshot)) :
    (Verification.stateStatus read).isCorrupt = !read.isOk := by
  unfold Verification.stateStatus
  split <;> rfl

theorem collect_isOk (h : Inspection.requireStores disk path = .ok ()) :
    (Summary.collect disk path).isOk = ((Inspection.readQueue disk path).isOk &&
      (Inspection.readHistory disk path).isOk && (Inspection.readState disk path).isOk) := by
  simp only [Summary.collect, h, bind, Except.bind]
  cases Inspection.readQueue disk path with
  | error e => rfl
  | ok queue =>
    dsimp only
    cases Inspection.readHistory disk path with
    | error e => rfl
    | ok history =>
      dsimp only
      cases Inspection.readState disk path <;> rfl

/-- **The inspections and the coordinator agree on what can be read.** In a directory in which each
store file is a regular file or missing, one of them is there and no temporary file is left, whatever
bytes the files hold: the verification says of each file what opening it does, and the summary
succeeds exactly if the verification finds no corrupt file. -/
theorem verify_agrees (htidy : ∀ here, disk.Leads path.toList here → disk.Tidy here)
    (hdir : disk.isDirectory path = true) (hqueue : disk.Ordinary (queuePath path))
    (hhistory : disk.Ordinary (historyPath path)) (hstate : disk.Ordinary (statePath path))
    (hthere : disk.exists (queuePath path) = true ∨ disk.exists (historyPath path) = true ∨
      disk.exists (statePath path) = true)
    (hqueueTemporary : disk.lookup (Path.temporary (queuePath path)) = .error .notFound)
    (hstateTemporary : disk.lookup (Path.temporary (statePath path)) = .error .notFound) :
    ∃ queue history state,
      Verification.collect disk path =
        .ok ⟨[(queueFile, queue), (historyFile, history), (stateFile, state)]⟩ ∧
      (∀ options, Verdict disk (queuePath path) (Queue.openFile (queuePath path) options)
        (Whole disk (queuePath path) queueFormat) (Cut disk (queuePath path) queueFormat) queue) ∧
      (∀ options, Verdict disk (historyPath path) (History.openFile (historyPath path) options)
        (Whole disk (historyPath path) historyFormat) (Cut disk (historyPath path) historyFormat)
        history) ∧
      (∀ fold, Verdict disk (statePath path) (StateStore.openFile (statePath path) fold)
        (fun records => 1 = records) (fun _ _ => False) state) ∧
      ((∃ summary, Summary.collect disk path = .ok summary) ↔
        ∀ status ∈ [queue, history, state], status.isCorrupt = false) := by
  obtain ⟨here, image, image', image'', -, -, hcontent, hcontent', hcontent''⟩ :=
    files_of_ordinary htidy hdir hqueue hhistory hstate
  obtain ⟨-, hqueueFits, hqueueGone⟩ :=
    isFilePath_of_missing (hcontent.isFilePath.names.resolve hcontent.fits) hqueueTemporary
  obtain ⟨-, hstateFits, hstateGone⟩ :=
    isFilePath_of_missing (hcontent''.isFilePath.names.resolve hcontent''.fits) hstateTemporary
  have hstores := requireStores_ok hthere
  refine ⟨Verification.logStatus (Inspection.readQueue disk path),
    Verification.logStatus (Inspection.readHistory disk path),
    Verification.stateStatus (Inspection.readState disk path), ?_, fun options => ?_,
    fun options => ?_, fun fold => ?_, ?_⟩
  · rw [Verification.collect, hstores]
    rfl
  · exact verdict_of_log hcontent (looks_readQueue hcontent) rfl
      (Queue.opensAs hcontent hqueueFits hqueueGone options)
  · exact verdict_of_log hcontent' (looks_readHistory hcontent') rfl
      (History.opensAs hcontent' options)
  · exact verdict_of_state hcontent'' hstateFits hstateGone fold
  · have hsummary := collect_isOk hstores
    simp only [List.forall_mem_cons, List.not_mem_nil, false_implies, implies_true, and_true,
      isCorrupt_logStatus, isCorrupt_stateStatus]
    rw [exists_ok_iff, collect_isOk hstores]
    simp [and_assoc]

/-! ## Damaged stores -/

/-- A queue file with one record and a part of the next, no history file, and a state file that is too
short. -/
def damagedStores : FileSystem where
  names := ⟨[(["data"], .directory), (["data", queueFile], .file 0), (["data", stateFile], .file 1)]⟩
  contents := ⟨[(0, Frame.toBytes queueFormat.magic .enqueue (Message.toBytes ⟨⟨7⟩, [1]⟩) ++
    [67, 83, 89]), (1, [7])]⟩
  fresh := 2

/-- The queue opens and is cut, the history is made, and the state store does not open. -/
theorem verify_agrees_damagedStores :
    let words := "state store corrupted: expected 26 bytes, found 1"
    Verification.collect damagedStores "/data" =
        .ok ⟨[(queueFile, .torn 1 28 .incompleteHeader), (historyFile, .missing),
          (stateFile, .corrupt words)]⟩ ∧
      (∃ queue disk', Queue.openFile (queuePath "/data") {} damagedStores = .ok queue disk') ∧
      Cut damagedStores (queuePath "/data") queueFormat 1 28 ∧
      (∃ history disk', History.openFile (historyPath "/data") {} damagedStores = .ok history disk' ∧
        disk'.exists (historyPath "/data") = true) ∧
      (∃ e disk', StateStore.openFile (statePath "/data") .sum damagedStores = .error e disk' ∧
        e.message = words) ∧
      ¬ ∃ summary, Summary.collect damagedStores "/data" = .ok summary := by
  intro words
  have htidy : damagedStores.isTidy = true := by decide +kernel
  obtain ⟨queue, history, state, hcollect, hqueue, hhistory, hstate, hsummary⟩ :=
    @verify_agrees damagedStores "/data" (fun here _ => tidy_of_isTidy htidy here)
      (by decide +kernel) (.inr ⟨0, by decide +kernel⟩) (.inl (by decide +kernel))
      (.inr ⟨1, by decide +kernel⟩) (.inl (by decide +kernel)) (by decide +kernel) (by decide +kernel)
  have hshown : (Verification.collect damagedStores "/data").toOption =
      some ⟨[(queueFile, .torn 1 28 .incompleteHeader), (historyFile, .missing),
        (stateFile, .corrupt words)]⟩ := by
    decide +kernel
  rw [hcollect] at hshown
  cases hshown
  obtain ⟨hopens, hcut⟩ := ((hqueue {}).torn 1 28).1 ⟨_, rfl⟩
  exact ⟨hcollect, hopens, hcut, ((hhistory {}).missing.1 rfl).2, ((hstate .sum).corrupt words).1 rfl,
    fun h => by simpa [FileStatus.isCorrupt] using hsummary.1 h⟩

end Directories

end Replica
