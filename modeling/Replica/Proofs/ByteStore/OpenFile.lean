/-
Open files, and the logs in them.

A file opened for writing on a regular file never fails in between, and it changes
the bytes of that file alone. So it keeps to the contract of byte stores
(`OpenFile.contract`), a log in it can always be cut back, and what a log does to
it can be written down (`Log.append_file`, `Log.reset_file`).
-/
import Replica.ByteStore.OpenFile
import Replica.Proofs.Disk.Replacement
import Replica.Proofs.Log

namespace Replica

open FileSystem

namespace OpenFile

variable {file : OpenFile} {disk disk' base : FileSystem} {n : Nat} {image data : Bytes}

/-! ## The calls, written out -/

/-- The file is open for writing on the regular file with this number. -/
def IsOn (file : OpenFile) (n : Nat) : Prop := file.target = .file n ∧ file.readOnly = false

/-- The same open file, with another belief about its size. -/
def resized (file : OpenFile) (size : Nat) : OpenFile := { file with size }

theorem IsOn.resized (h : file.IsOn n) (size : Nat) : (file.resized size).IsOn n := h

theorem append_eq (h : file.IsOn n) (disk : FileSystem) (hdata : data ≠ []) :
    ByteStore.append data (file, disk) =
      .ok file.size (file.resized (file.size + data.length), disk.setBytes n (disk.bytes n ++ data)) := by
  obtain ⟨htarget, hwritable⟩ := h
  show OpenFile.append data (file, disk) = _
  simp only [append, ensureWritable, bind, EStateM.bind, hwritable, get_apply, Bool.false_eq_true,
    if_false, hdata, onDisk, Part.lift, Part.run, EStateM.adaptExcept, Part.right, htarget]
  rfl

theorem append_nil (h : file.IsOn n) (disk : FileSystem) :
    ByteStore.append [] (file, disk) = .ok file.size (file, disk) := by
  show OpenFile.append [] (file, disk) = _
  simp only [append, ensureWritable, bind, EStateM.bind, h.2, get_apply, Bool.false_eq_true, if_false,
    if_true]
  rfl

theorem sync_eq (h : file.IsOn n) (disk : FileSystem) :
    ByteStore.sync (file, disk) = .ok () (file, disk) := by
  obtain ⟨htarget, hwritable⟩ := h
  show OpenFile.sync (file, disk) = _
  simp only [sync, bind, EStateM.bind, get_apply, hwritable, Bool.false_eq_true, if_false, onDisk,
    Part.lift, Part.run, EStateM.adaptExcept, Part.right, htarget]
  rfl

theorem truncate_of_lt (h : file.IsOn n) (disk : FileSystem) {size : Nat} (hlt : file.size < size) :
    ByteStore.truncate size (file, disk) =
      .error (.truncateBeyondEnd size file.size) (file, disk) := by
  show OpenFile.truncate size (file, disk) = _
  simp only [truncate, ensureWritable, bind, EStateM.bind, h.2, get_apply, Bool.false_eq_true,
    if_false, hlt, if_true]
  rfl

theorem truncate_of_le (h : file.IsOn n) (disk : FileSystem) {size : Nat} (hle : size ≤ file.size) :
    ByteStore.truncate size (file, disk) =
      .ok () (file.resized size, disk.setBytes n ((disk.bytes n).take size ++
        List.replicate (size - (disk.bytes n).length) 0)) := by
  obtain ⟨htarget, hwritable⟩ := h
  show OpenFile.truncate size (file, disk) = _
  simp only [truncate, ensureWritable, bind, EStateM.bind, hwritable, get_apply, Bool.false_eq_true,
    if_false, Nat.not_lt.2 hle, onDisk, Part.lift, Part.run, EStateM.adaptExcept, Part.right, htarget]
  rfl

theorem readAll_eq (h : file.IsOn n) (hsize : file.size = (disk.bytes n).length) :
    ByteStore.readAll file disk = .ok (disk.bytes n) := by
  show file.readAt disk 0 file.size = _
  have hrange : ByteStore.checkRange 0 file.size file.size = .ok () := by
    simp [ByteStore.checkRange]
  rw [readAt, hrange]
  dsimp only
  by_cases hzero : file.size = 0
  · rw [if_pos hzero]
    rw [hzero] at hsize
    rw [List.eq_nil_of_length_eq_zero hsize.symm]
  · rw [if_neg hzero, h.1, readRange, hsize, List.drop_zero, List.take_length, if_pos rfl]

/-! ## The contract -/

/-- Two file systems that differ in the bytes of one file at most. -/
structure Beside (n : Nat) (base disk : FileSystem) : Prop where
  names : disk.names = base.names
  fresh : disk.fresh = base.fresh
  working : disk.working = base.working
  locked : disk.locked = base.locked
  contents {k : Nat} (h : k ≠ n) : disk.contents.get? k = base.contents.get? k

theorem Beside.refl (n : Nat) (base : FileSystem) : Beside n base base :=
  ⟨rfl, rfl, rfl, rfl, fun _ => rfl⟩

theorem Beside.setBytes (h : Beside n base disk) (data : Bytes) : Beside n base (disk.setBytes n data) :=
  ⟨h.names, h.fresh, h.working, h.locked, fun hk => by rw [get?_setBytes, if_neg hk, h.contents hk]⟩

/-- The file is open and knows its size, it holds these bytes, and nothing else has changed. -/
structure Holds (n : Nat) (base : FileSystem) (file : OpenFile) (disk : FileSystem) (image : Bytes) :
    Prop where
  isOn : file.IsOn n
  size : file.size = image.length
  bytes : disk.contents.get? n = some image
  beside : Beside n base disk

theorem Holds.setBytes (h : Holds n base file disk image) (data : Bytes) :
    Holds n base (file.resized data.length) (disk.setBytes n data) data :=
  ⟨h.isOn, rfl, by rw [get?_setBytes, if_pos rfl], h.beside.setBytes data⟩

/-- **An open file** keeps to the contract of byte stores, and to its own file. -/
def contract (n : Nat) (base : FileSystem) : ByteStore.Contract OpenFile FileSystem where
  Holds := Holds n base
  readAll := by
    intro file disk image h
    have hbytes := bytes_of_get? h.bytes
    rw [readAll_eq h.isOn (by rw [hbytes, h.size]), hbytes]
  size h := h.size
  append_ok := by
    intro file file' disk disk' image data offset h hrun
    have hbytes := bytes_of_get? h.bytes
    by_cases hdata : data = []
    · subst hdata
      rw [append_nil h.isOn] at hrun
      cases hrun
      exact ⟨h.size, by rwa [List.append_nil]⟩
    · rw [append_eq h.isOn disk hdata, hbytes] at hrun
      cases hrun
      have hheld := h.setBytes (image ++ data)
      rw [List.length_append, ← h.size] at hheld
      exact ⟨h.size, hheld⟩
  append_error := by
    intro file file' disk disk' image data e h hrun
    by_cases hdata : data = []
    · subst hdata
      rw [append_nil h.isOn] at hrun
      cases hrun
    · rw [append_eq h.isOn disk hdata] at hrun
      cases hrun
  sync_ok := by
    intro file file' disk disk' image a h hrun
    rw [sync_eq h.isOn] at hrun
    cases hrun
    exact h
  sync_error := by
    intro file file' disk disk' image e h hrun
    rw [sync_eq h.isOn] at hrun
    cases hrun
  truncate_ok := by
    intro file file' disk disk' image size a h hrun
    have hbytes := bytes_of_get? h.bytes
    by_cases hlt : file.size < size
    · rw [truncate_of_lt h.isOn disk hlt] at hrun
      cases hrun
    · have hle := Nat.not_lt.1 hlt
      rw [truncate_of_le h.isOn disk hle, hbytes] at hrun
      cases hrun
      have hsize := h.size
      have hnone : size - image.length = 0 := by omega
      have hheld := h.setBytes (image.take size)
      rw [List.length_take, show min size image.length = size by omega] at hheld
      rwa [hnone, List.replicate_zero, List.append_nil]
  truncate_error := by
    intro file file' disk disk' image size e h hrun
    by_cases hlt : file.size < size
    · rw [truncate_of_lt h.isOn disk hlt] at hrun
      cases hrun
      exact h
    · rw [truncate_of_le h.isOn disk (Nat.not_lt.1 hlt)] at hrun
      cases hrun

theorem alters_of_holds {here : Place} {name : String} (htidy : base.Tidy here)
    (hfile : base.entry? (here ++ [name]) = some (.file n)) (h : Holds n base file disk image) :
    Alters here [name] base disk :=
  alters_of_names htidy hfile h.beside.names h.beside.fresh h.beside.working
    (by rw [h.bytes]; simp) fun _ hk => h.beside.contents hk

/-! ## Opening -/

theorem Holds.of_entry {here : Place} {name : String} (htidy : disk.Tidy here)
    (hfile : disk.entry? (here ++ [name]) = some (.file n)) (path : String) :
    Holds n disk ⟨path, .file n, (disk.bytes n).length, false⟩ disk (disk.bytes n) := by
  refine ⟨⟨rfl, rfl⟩, rfl, ?_, .refl n disk⟩
  obtain ⟨-, hknown⟩ := htidy.known hfile
  rw [FileSystem.bytes]
  cases hget : disk.contents.get? n with
  | none => exact absurd hget hknown
  | some image => rfl

theorem Holds.rebase (h : Holds n base file disk image) : Holds n disk file disk image :=
  ⟨h.isOn, h.size, h.bytes, .refl n disk⟩

theorem Holds.entry?_eq (h : Holds n base file disk image) (place : Place) :
    disk.entry? place = base.entry? place := by
  rw [FileSystem.entry?, FileSystem.entry?, h.beside.names]

theorem Holds.alters {here : Place} {name : String} {touched : List String}
    (h : Holds n base file disk image) (hfile : disk.entry? (here ++ [name]) = some (.file n))
    (halters : FileSystem.Alters here touched disk disk') (hname : name ∉ touched) :
    Holds n disk' file disk' image :=
  ⟨h.isOn, h.size, by rw [halters.contents hname hfile, h.bytes], .refl n disk'⟩

theorem open_eq (path : String) (disk : FileSystem) :
    OpenFile.open path disk =
      match openWrite path disk with
      | .error e disk' => .error e disk'
      | .ok entry disk' => .ok (ofEntry path false entry disk') disk' := by
  simp only [OpenFile.open, bind, EStateM.bind]
  cases openWrite path disk <;> rfl

theorem open_of_hasFile {path : String} {here : Place} {name : String} (h : disk.Names path here name)
    (hfits : Route.Fits path) (htidy : disk.Tidy here) (hfile : disk.HasFile here name image) :
    ∃ file n, OpenFile.open path disk = .ok file disk ∧
      disk.entry? (here ++ [name]) = some (.file n) ∧ Holds n disk file disk image := by
  obtain ⟨n, hentry, hbytes⟩ := hfile
  have hheld := Holds.of_entry htidy hentry path
  rw [bytes_of_get? hbytes] at hheld
  refine ⟨_, n, ?_, hentry, hheld⟩
  rw [open_eq, h.openWrite hfits, hentry]
  dsimp only
  rw [ofEntry, FileSystem.length, bytes_of_get? hbytes]

theorem openWithDirectories_eq {path parent : String} (hparent : Path.parent? path = some parent)
    (disk : FileSystem) :
    openWithDirectories path disk =
      match makeDirectories parent disk with
      | .error e disk' => .error e disk'
      | .ok _ disk' => OpenFile.open path disk' := by
  simp only [openWithDirectories, bind, EStateM.bind, hparent]
  cases makeDirectories parent disk <;> rfl

/-- **Opening a file in a directory**: the file that is there, or a new one that is empty. -/
theorem openWithDirectories_cases {path : String} {here : Place} {name : String}
    (h : disk.IsFilePath path here name) (htidy : disk.Tidy here) :
    (Route.Fits path ∧ ∃ file n disk' image, openWithDirectories path disk = .ok file disk' ∧
        disk'.entry? (here ++ [name]) = some (.file n) ∧ Holds n disk' file disk' image ∧
        Alters here [name] disk disk' ∧
        ((disk.entry? (here ++ [name]) = none ∧ image = []) ∨
          (disk.entry? (here ++ [name]) = some (.file n) ∧ disk' = disk))) ∨
      (Route.Fits path → disk.entry? (here ++ [name]) = some .directory) ∧
        ∃ e, openWithDirectories path disk = .error e disk := by
  by_cases hfits : Route.Fits path
  · obtain ⟨parent, hparent, hmake⟩ := h.makeDirectories hfits
    rw [openWithDirectories_eq hparent, hmake]
    dsimp only
    rw [open_eq, h.names.openWrite hfits]
    cases hentry : disk.entry? (here ++ [name]) with
    | none =>
      have hmade := alters_withFile htidy hentry
      have hfile : FileSystem.entry? (disk.withFile (here ++ [name])) (here ++ [name]) =
          some (.file disk.fresh) := by
        rw [entry?_withFile, if_pos rfl]
      have hbytes : (disk.withFile (here ++ [name])).bytes disk.fresh = [] :=
        bytes_of_get? (Table.get?_insert_self ..)
      have hheld := Holds.of_entry hmade.tidy hfile path
      rw [hbytes] at hheld
      refine .inl ⟨hfits, _, _, _, [], rfl, hfile, ?_, hmade, .inl ⟨rfl, rfl⟩⟩
      rw [ofEntry, FileSystem.length, hbytes]
      exact hheld
    | some entry =>
      cases entry with
      | directory => exact .inr ⟨fun _ => rfl, _, rfl⟩
      | file n =>
        exact .inl ⟨hfits, _, _, _, _, rfl, hentry, Holds.of_entry htidy hentry path, .refl htidy _,
          .inr ⟨rfl, rfl⟩⟩
      | full => exact absurd hentry htidy.plain
  · refine .inr ⟨fun h => absurd h hfits, ?_⟩
    obtain ⟨parent, hparent, -, hleads⟩ := h.parent
    obtain ⟨e, he⟩ := openWrite_of_not_fits hfits
    have hopen : OpenFile.open path disk = .error e disk := by rw [open_eq, he]
    rw [openWithDirectories_eq hparent]
    by_cases hne : parent = ""
    · rw [hne, makeDirectories_empty]
      exact ⟨e, hopen⟩
    · rw [directoryOf_of_ne hne] at hleads
      by_cases hfits' : Route.Fits parent
      · rw [makeDirectories_of_isDirectory ((isDirectory_iff_leads hfits').2 ⟨here, hleads⟩) hne]
        exact ⟨e, hopen⟩
      · obtain ⟨e', he'⟩ := disk.makeDirectories_of_not_fits hfits' hne
        rw [he']
        exact ⟨e', rfl⟩

/-- **An opened file says what the file before it said**, where a missing file says what an empty one
does. -/
theorem holds_of_opened {place : Place} {missing : Prop} {Told : Bytes → Prop}
    (hempty : missing → Told []) (hheld : Holds n disk' file disk' image)
    (hbefore : (disk.entry? place = none ∧ image = []) ∨
      (disk.entry? place = some (.file n) ∧ disk' = disk))
    (hsaid : (disk.entry? place = none ∧ missing) ∨ ∃ m image',
      disk.entry? place = some (.file m) ∧ disk.contents.get? m = some image' ∧ Told image') :
    Told image := by
  rcases hsaid with ⟨hnew, hmissing⟩ | ⟨m, image', hfile, hbytes, htold⟩
  · rcases hbefore with ⟨-, rfl⟩ | ⟨hold, -⟩
    · exact hempty hmissing
    · rw [hnew] at hold
      cases hold
  · rcases hbefore with ⟨hnew, -⟩ | ⟨hold, rfl⟩
    · rw [hnew] at hfile
      cases hfile
    · rw [hold] at hfile
      cases hfile
      have hsame := hheld.bytes
      rw [hbytes] at hsame
      cases hsame
      exact htold

end OpenFile

/-! ## Logs in files -/

theorem Frame.toBytes_ne_nil (magic : Magic) (kind : RecordKind) (payload : Bytes) :
    Frame.toBytes magic kind payload ≠ [] := by
  simp [Frame.toBytes, Frame.body, Magic.toBytes]

namespace Log

open OpenFile

variable {log : Log OpenFile} {n : Nat} {kind : RecordKind} {payload frame : Bytes}

/-- **Recovering a log in a file** does not fail where the bytes scan: it hands out the records and
keeps the intact part. -/
theorem recover_file {file : OpenFile} {disk base : FileSystem} {image : Bytes} {format : LogFormat}
    {found : Scan} (hheld : Holds n base file disk image) (hscan : scan format image = .ok found) :
    ∃ file' disk', recover format (file, disk) = .ok found.records (file', disk') ∧
      Holds n base file' disk' (image.take found.validLength) ∧
      Walk format 0 (image.take found.validLength) { found with tornTail := none } := by
  have hread := (contract n base).readAll hheld
  have hrun : ∃ file' disk', recover format (file, disk) = .ok found.records (file', disk') := by
    cases htail : found.tornTail with
    | none => exact ⟨file, disk, recover_of_whole hread hscan htail⟩
    | some torn =>
      have hle := (scanFrom_eq_ok_iff.1 hscan).validLength_le
      rw [Nat.zero_add, ← hheld.size] at hle
      rw [recover_of_torn hread hscan htail, truncate_of_le hheld.isOn disk hle]
      exact ⟨_, _, rfl⟩
  obtain ⟨file', disk', hrun⟩ := hrun
  obtain ⟨found', hscan', -, hheld', hwalk⟩ :=
    @recover_ok _ _ _ (contract n base) _ _ _ _ _ _ _ hheld hrun
  obtain rfl : found = found' := Except.ok.inj (hscan.symm.trans hscan')
  exact ⟨file', disk', hrun, hheld', hwalk⟩

theorem write_file (h : log.store.IsOn n) (disk : FileSystem) (hframe : frame ≠ []) :
    onStore (write log.syncOnWrite frame) (log, disk) =
      .ok log.store.size ({ log with store := log.store.resized (log.store.size + frame.length) },
        disk.setBytes n (disk.bytes n ++ frame)) := by
  rw [onStore_eq, write_eq, OpenFile.append_eq h disk hframe]
  dsimp only
  rw [OpenFile.sync_eq (h.resized _)]
  cases log.syncOnWrite <;> rfl

/-- A log in a file can always be cut back, as writing does not fail. -/
theorem rollsBack_of_file (h : log.store.IsOn n) (disk : FileSystem) (hframe : frame ≠ []) :
    log.RollsBack disk frame := by
  intro e s hwrite
  rw [write_file h disk hframe] at hwrite
  cases hwrite

/-- **Appending to a log in a file**: it fails with what is too large and with nothing else. -/
theorem append_file (h : log.store.IsOn n) (disk : FileSystem) (kind : RecordKind) (payload : Bytes) :
    append kind payload (log, disk) =
      if Frame.maxPayload < payload.length then
        .error (.messageTooLarge payload.length Frame.maxPayload) (log, disk)
      else
        let frame := Frame.toBytes log.format.magic kind payload
        .ok log.store.size ({ log with store := log.store.resized (log.store.size + frame.length) },
          disk.setBytes n (disk.bytes n ++ frame)) := by
  rw [append_eq, Frame.encode]
  by_cases hlong : Frame.maxPayload < payload.length
  · simp only [hlong, if_true]
  · simp only [hlong, if_false, write_file h disk (Frame.toBytes_ne_nil _ _ _)]

theorem sync_file (h : log.store.IsOn n) (disk : FileSystem) :
    sync (log, disk) = .ok () (log, disk) := by
  have hflush : onStore ByteStore.flush (log, disk) = .ok () (log, disk) := rfl
  have hsync : onStore ByteStore.sync (log, disk) = .ok () (log, disk) := by
    rw [onStore_eq, OpenFile.sync_eq h disk]
  simp only [sync, bind, EStateM.bind, hflush, hsync]

theorem reset_file (h : log.store.IsOn n) (disk : FileSystem) :
    reset (log, disk) =
      .ok () ({ log with store := log.store.resized 0 }, disk.setBytes n []) := by
  rw [reset, onStore_eq, OpenFile.truncate_of_le h disk (Nat.zero_le _)]
  simp

end Log

end Replica
