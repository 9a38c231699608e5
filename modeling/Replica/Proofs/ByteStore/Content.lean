/-
What lies at the path of a store file.

There is nothing or a regular file (`FileSystem.Ordinary`), and either way there are
bytes (`FileSystem.Content`): a missing file counts as one without any. Reading the
bytes of a log is scanning them and replaying what the scan found (`readImage`). A log
that is opened there hands out the records of the scan and keeps the intact part of the
bytes (`Content.recovers_iff`).
-/
import Replica.Proofs.Disk.Resolution
import Replica.Proofs.ByteStore.OpenFile

namespace Replica

open FileSystem OpenFile

/-! ## What lies at a path -/

/-- There is a regular file at a path, or nothing. -/
def FileSystem.Ordinary (disk : FileSystem) (path : String) : Prop :=
  disk.lookup path = .error .notFound ∨ ∃ n, disk.lookup path = .ok (.file n)

/-- **The bytes at the path of a file**: those of the file, or none if there is no file. -/
structure FileSystem.Content (disk : FileSystem) (path : String) (here : Place) (name : String)
    (image : Bytes) : Prop where
  isFilePath : disk.IsFilePath path here name
  tidy : disk.Tidy here
  fits : Route.Fits path
  bytes : (disk.entry? (here ++ [name]) = none ∧ image = []) ∨ disk.HasFile here name image

namespace FileSystem

variable {disk : FileSystem} {path : String} {here : Place} {name : String} {image : Bytes}

theorem hasFile_of_file {n : Nat} (htidy : disk.Tidy here)
    (hentry : disk.entry? (here ++ [name]) = some (.file n)) :
    disk.HasFile here name (disk.bytes n) := by
  obtain ⟨-, hknown⟩ := htidy.known hentry
  refine ⟨n, hentry, ?_⟩
  cases hget : disk.contents.get? n with
  | none => exact absurd hget hknown
  | some image => rw [bytes_of_get? hget]

/-- Where it is seen that there is nothing, the path is not too long. -/
theorem fits_of_notFound (hne : path ≠ "") (h : disk.lookup path = .error .notFound) :
    Route.Fits path := by
  by_cases hfits : Route.Fits path
  · exact hfits
  · obtain ⟨e, he, hother⟩ := Route.ofPath_of_not_fits_of_ne hfits hne
    rw [lookup, resolve, he] at h
    exact absurd (Except.error.inj h) hother

theorem Ordinary.fits (h : disk.Ordinary path) (hne : path ≠ "") : Route.Fits path := by
  rcases h with hnew | ⟨n, hfile⟩
  · exact fits_of_notFound hne hnew
  · obtain ⟨here, name, hresolve, -⟩ := lookup_file hfile
    exact fits_of_resolve hresolve

theorem join_ne_empty (hpath : path ≠ "") (hname : IsFileName name) : Path.join path name ≠ "" := by
  obtain ⟨text, htext, -⟩ := Path.join_eq hpath hname.1
  intro hempty
  rw [hempty] at htext
  simp at htext

/-- **A store file in a directory** has its bytes, if there is nothing else in its place. -/
theorem Ordinary.content (hpath : path ≠ "") (hname : IsFileName name)
    (hleads : disk.Leads path.toList here) (htidy : disk.Tidy here)
    (h : disk.Ordinary (Path.join path name)) :
    ∃ image, disk.Content (Path.join path name) here name image := by
  have hfile := isFilePath_join hpath hname hleads
  have hfits := h.fits (join_ne_empty hpath hname)
  have hlookup := hfile.names.lookup hfits
  cases hentry : disk.entry? (here ++ [name]) with
  | none => exact ⟨[], hfile, htidy, hfits, .inl ⟨hentry, rfl⟩⟩
  | some entry =>
    rw [hentry] at hlookup
    rcases h with hnew | ⟨n, hn⟩
    · rw [hnew] at hlookup
      cases hlookup
    · rw [hn] at hlookup
      cases hlookup
      exact ⟨disk.bytes n, hfile, htidy, hfits, .inr (hasFile_of_file htidy hentry)⟩

namespace Content

theorem not_directory (h : disk.Content path here name image) :
    disk.entry? (here ++ [name]) ≠ some .directory := by
  rcases h.bytes with ⟨hnew, -⟩ | hfile
  · simp [hnew]
  · exact hfile.ne_directory

theorem alters {disk' : FileSystem} {touched : List String} (h : disk.Content path here name image)
    (halters : Alters here touched disk disk') (hname : name ∉ touched) :
    disk'.Content path here name image := by
  refine ⟨h.isFilePath.keeps halters.keeps, halters.tidy, h.fits, ?_⟩
  rcases h.bytes with ⟨hnew, hnone⟩ | hfile
  · exact .inl ⟨by rw [halters.entry hname, hnew], hnone⟩
  · exact .inr (hfile.alters halters hname)

theorem exists_of_file (h : disk.Content path here name image) (hfile : disk.HasFile here name image) :
    disk.exists path = true := by
  obtain ⟨n, hentry, -⟩ := hfile
  exact h.isFilePath.names.exists_iff.2 ⟨h.fits, by simp [hentry]⟩

theorem not_exists (h : disk.Content path here name image)
    (hnew : disk.entry? (here ++ [name]) = none) : disk.exists path = false := by
  rw [← Bool.not_eq_true, h.isFilePath.names.exists_iff]
  simp [hnew]

theorem hasFile (h : disk.Content path here name image)
    (hfile : ∃ n, disk.lookup path = .ok (.file n)) : disk.HasFile here name image := by
  rcases h.bytes with ⟨hnew, -⟩ | hthere
  · obtain ⟨n, hn⟩ := hfile
    have hmissing := h.not_exists hnew
    rw [FileSystem.exists, hn] at hmissing
    cases hmissing
  · exact hthere

end Content

end FileSystem

/-! ## Reading the bytes of a log -/

section Reading

variable {β : Type} {disk disk' : FileSystem} {path : String} {here : Place} {name : String}
  {image before after : Bytes} {format : LogFormat} {replay : List LogRecord → Except StoreError β}
  {records : List LogRecord}

/-- The records of an image and what they replay to. -/
def readImage (format : LogFormat) (replay : List LogRecord → Except StoreError β) (image : Bytes) :
    Except StoreError (Scan × β) :=
  match scan format image with
  | .error e => .error e
  | .ok found =>
    match replay found.records with
    | .error e => .error e
    | .ok held => .ok (found, held)

theorem readImage_eq_ok_iff {found : Scan} {held : β} :
    readImage format replay image = .ok (found, held) ↔
      scan format image = .ok found ∧ replay found.records = .ok held := by
  unfold readImage
  constructor
  · intro h
    split at h
    · cases h
    · rename_i hscan
      split at h
      · cases h
      · rename_i hreplay
        cases h
        exact ⟨hscan, hreplay⟩
  · rintro ⟨hscan, hreplay⟩
    rw [hscan]
    dsimp only
    rw [hreplay]

theorem readImage_eq_error {e : StoreError} (h : readImage format replay image = .error e) :
    scan format image = .error e ∨
      ∃ found, scan format image = .ok found ∧ replay found.records = .error e := by
  unfold readImage at h
  split at h
  · rename_i hscan
    cases h
    exact .inl hscan
  · rename_i found hscan
    split at h
    · rename_i hreplay
      cases h
      exact .inr ⟨found, hscan, hreplay⟩
    · cases h

/-! ## Opening a log -/

/-- **Recovering the log at a path**: the file is opened with the bytes `before`, hands out the
records and keeps the bytes `after`. -/
def Recovers (disk : FileSystem) (path : String) (format : LogFormat) (records : List LogRecord)
    (before after : Bytes) : Prop :=
  ∃ file disk₁ file' disk₂, openWithDirectories path disk = .ok file disk₁ ∧
    disk₁.readAll path = .ok before ∧ Log.recover format (file, disk₁) = .ok records (file', disk₂) ∧
    disk₂.readAll path = .ok after

theorem FileSystem.Content.opened (h : disk.Content path here name image) :
    ∃ file n disk', openWithDirectories path disk = .ok file disk' ∧
      disk'.entry? (here ++ [name]) = some (.file n) ∧ Holds n disk' file disk' image ∧
      Alters here [name] disk disk' ∧ (disk.HasFile here name image → disk' = disk) := by
  rcases openWithDirectories_cases h.isFilePath h.tidy with
    ⟨-, file, n, disk', image', hopen, hentry, hheld, halters, hbefore⟩ | ⟨hdirectory, -⟩
  · have hsaid : (disk.entry? (here ++ [name]) = none ∧ image = []) ∨ ∃ m image',
        disk.entry? (here ++ [name]) = some (.file m) ∧ disk.contents.get? m = some image' ∧
          image = image' := by
      rcases h.bytes with hnew | ⟨m, hfile, hbytes⟩
      · exact .inl hnew
      · exact .inr ⟨m, image, hfile, hbytes, rfl⟩
    have hsame : image = image' := holds_of_opened id hheld hbefore hsaid
    subst hsame
    refine ⟨file, n, disk', hopen, hentry, hheld, halters, ?_⟩
    rintro ⟨m, hfile, -⟩
    rcases hbefore with ⟨hnew, -⟩ | ⟨-, hsame⟩
    · rw [hnew] at hfile
      cases hfile
    · exact hsame
  · exact absurd (hdirectory h.fits) h.not_directory

/-- **What recovering the log at a path does**: it hands out the records of the scan and keeps the
intact part of the bytes. -/
theorem FileSystem.Content.recovers_iff (h : disk.Content path here name image) :
    Recovers disk path format records before after ↔
      before = image ∧ ∃ found, scan format image = .ok found ∧ found.records = records ∧
        after = image.take found.validLength := by
  obtain ⟨file, n, disk₁, hopen, hentry, hheld, halters, -⟩ := h.opened
  have hnames₁ := h.isFilePath.names.keeps halters.keeps
  have hread₁ : disk₁.readAll path = .ok image := hnames₁.readAll h.fits ⟨n, hentry, hheld.bytes⟩
  have hread₂ {file' : OpenFile} {disk₂ : FileSystem} {image' : Bytes}
      (hheld' : Holds n disk₁ file' disk₂ image') : disk₂.readAll path = .ok image' := by
    have halters' := alters_of_holds halters.tidy hentry hheld'
    refine (hnames₁.keeps halters'.keeps).readAll h.fits ⟨n, ?_, hheld'.bytes⟩
    rw [hheld'.entry?_eq, hentry]
  constructor
  · rintro ⟨file', disk₁', file₂, disk₂, hopen', hbefore, hrecover, hafter⟩
    rw [hopen] at hopen'
    cases hopen'
    obtain ⟨found, hscan, hrecords, hheld', -⟩ :=
      @Log.recover_ok _ _ _ (contract n disk₁) _ _ _ _ _ _ _ hheld hrecover
    rw [hread₁] at hbefore
    rw [hread₂ hheld'] at hafter
    exact ⟨(Except.ok.inj hbefore).symm, found, hscan, hrecords, (Except.ok.inj hafter).symm⟩
  · rintro ⟨rfl, found, hscan, rfl, rfl⟩
    obtain ⟨file', disk₂, hrecover, hheld', -⟩ := Log.recover_file hheld hscan
    exact ⟨file, disk₁, file', disk₂, hopen, hread₁, hrecover, hread₂ hheld'⟩

end Reading

end Replica
