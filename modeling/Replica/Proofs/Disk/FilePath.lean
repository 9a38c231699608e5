/-
Paths of files.

A path that ends at a name has a parent and a temporary sibling, and both belong to
the directory in which it ends (`FileSystem.IsFilePath`). That is so for the path of
a file in a directory, and for any path at all that is seen to end at a name
(`isFilePath_of_resolve`), unless the sibling's path or name is too long: then no
call ever finds or makes the sibling (`Blocked`).
-/
import Replica.Proofs.Disk.Calls

namespace Replica.FileSystem

variable {disk disk' : FileSystem} {path : String} {here : Place} {name : String}

/-! ## Names and siblings -/

/-- The name of the temporary sibling of a file. -/
def temporaryName (name : String) : String := name ++ ".tmp"

theorem temporaryName_ne (name : String) : temporaryName name ≠ name := by
  intro h
  have hsize := congrArg String.utf8ByteSize h
  rw [temporaryName, String.utf8ByteSize_append, show ".tmp".utf8ByteSize = 4 from rfl] at hsize
  omega

theorem isPlain_temporaryName (h : Path.IsPlain name.toList) :
    Path.IsPlain (temporaryName name).toList := by
  have hlen : 4 < (temporaryName name).toList.length := by
    have hne := List.length_pos_iff.2 h.2.1
    simp only [temporaryName, String.toList_append, List.length_append,
      show ".tmp".toList.length = 4 from rfl]
    omega
  refine ⟨?_, ?_, ?_, ?_⟩
  · simp [temporaryName, String.toList_append, h.1]
  all_goals
    intro heq
    rw [heq] at hlen
    simp at hlen

/-- The directory that a parent stands for: the parent of a bare name is empty. -/
def directoryOf (parent : String) : String := if parent = "" then "." else parent

theorem directoryOf_of_ne {parent : String} (h : parent ≠ "") : directoryOf parent = parent :=
  if_neg h

/-- **A path of a file in a directory**: the temporary sibling and the parent are where they should
be. -/
structure IsFilePath (disk : FileSystem) (path : String) (here : Place) (name : String) : Prop where
  names : disk.Names path here name
  temporary : disk.Names (Path.temporary path) here (temporaryName name)
  parent : ∃ parent, Path.parent? path = some parent ∧
    (Route.Fits path → Route.Fits (directoryOf parent)) ∧ disk.Leads (directoryOf parent).toList here

theorem IsFilePath.keeps (h : disk.IsFilePath path here name) (hkeeps : Keeps disk disk') :
    disk'.IsFilePath path here name := by
  obtain ⟨names, temporary, parent, hparent, hfits, hleads⟩ := h
  exact ⟨names.keeps hkeeps, temporary.keeps hkeeps, parent, hparent, hfits, hleads.keeps hkeeps⟩

/-- A name that may stand for a file and has room for a temporary sibling. -/
def IsFileName (name : String) : Prop :=
  Path.IsPlain name.toList ∧ Path.IsPlain (temporaryName name).toList ∧
    (temporaryName name).utf8ByteSize ≤ Route.nameLimit

instance (name : String) : Decidable (IsFileName name) := by
  unfold IsFileName
  infer_instance

theorem isFilePath_join (hpath : path ≠ "") (hname : IsFileName name)
    (hleads : disk.Leads path.toList here) :
    disk.IsFilePath (Path.join path name) here name := by
  obtain ⟨hplain, hplain', hshort⟩ := hname
  have hshort' : name.utf8ByteSize ≤ Route.nameLimit := by
    rw [temporaryName, String.utf8ByteSize_append] at hshort
    omega
  obtain ⟨parent, hparent, hne, hprefix, hleads', htemporary⟩ :=
    exists_parent_join hpath hplain hleads
  refine ⟨names_join hpath hplain hshort' hleads, ?_, parent, hparent, ?_, ?_⟩
  · rw [htemporary]
    exact names_join hne hplain' hshort hleads'
  · rw [directoryOf_of_ne hne]
    exact Route.fits_of_prefix hne hprefix
  · rw [directoryOf_of_ne hne]
    exact hleads'

theorem fits_append {front other : String} (hne : other ≠ "") (hzero : '\x00' ∉ other.toList)
    (hle : other.utf8ByteSize ≤ name.utf8ByteSize) (h : Route.Fits (front ++ name)) :
    Route.Fits (front ++ other) := by
  obtain ⟨hzero', -, hlong⟩ := h
  rw [String.toList_append, List.mem_append, not_or] at hzero'
  rw [String.utf8ByteSize_append] at hlong
  refine ⟨?_, fun heq => ?_, by rw [String.utf8ByteSize_append]; omega⟩
  · rw [String.toList_append, List.mem_append, not_or]
    exact ⟨hzero'.1, hzero⟩
  · have hchars := congrArg String.toList heq
    rw [String.toList_append] at hchars
    exact hne (String.toList_eq_nil_iff.1 (List.append_eq_nil_iff.1 hchars).2)

theorem fits_join {other : String} (hname : Path.IsPlain name.toList)
    (hother : Path.IsPlain other.toList) (hzero : '\x00' ∉ other.toList)
    (hle : other.utf8ByteSize ≤ name.utf8ByteSize) (h : Route.Fits (Path.join path name)) :
    Route.Fits (Path.join path other) := by
  have hne : other ≠ "" := fun heq => hother.2.1 (by rw [heq]; rfl)
  unfold Path.join at h ⊢
  rw [Path.isAbsolute_of_isPlain hname, Bool.false_or] at h
  rw [Path.isAbsolute_of_isPlain hother, Bool.false_or]
  split
  · rename_i hempty
    rw [if_pos hempty] at h
    exact ⟨hzero, hne, Nat.lt_of_le_of_lt hle h.2.2⟩
  · rename_i hempty
    rw [if_neg hempty] at h
    split
    · rename_i hslash
      rw [if_pos hslash] at h
      exact fits_append hne hzero hle h
    · rename_i hslash
      rw [if_neg hslash] at h
      exact fits_append hne hzero hle h

theorem makeDirectories_empty (disk : FileSystem) : FileSystem.makeDirectories "" disk = .ok () disk := by
  rw [FileSystem.makeDirectories, Path.ancestors, Path.ancestorsFrom, makeDirectoriesFrom]
  rfl

theorem IsFilePath.makeDirectories (h : disk.IsFilePath path here name) (hfits : Route.Fits path) :
    ∃ parent, Path.parent? path = some parent ∧
      FileSystem.makeDirectories parent disk = .ok () disk := by
  obtain ⟨parent, hparent, hfits', hleads⟩ := h.parent
  refine ⟨parent, hparent, ?_⟩
  by_cases hne : parent = ""
  · rw [hne, makeDirectories_empty]
  · rw [directoryOf_of_ne hne] at hfits' hleads
    exact makeDirectories_of_isDirectory
      ((isDirectory_iff_leads (hfits' hfits)).2 ⟨here, hleads⟩) hne

/-! ## Any path that ends at a name -/

theorem fits_of_resolve {p : Place × Ending} (h : disk.resolve path = .ok p) : Route.Fits path := by
  by_cases hfits : Route.Fits path
  · exact hfits
  · obtain ⟨e, he⟩ := resolve_of_not_fits hfits
    rw [he] at h
    cases h

theorem text_of_resolve (h : disk.resolve path = .ok (here, .name name false)) :
    Path.IsPlain name.toList ∧ (path = name ∧ disk.working = here ∨
      ∃ text, path.toList = text ++ '/' :: name.toList ∧
        disk.follow (if Path.isAbsolute path.toList then [] else disk.working)
          (Route.pieces text) = .ok here) := by
  rw [resolve_of_fits disk (fits_of_resolve h)] at h
  split at h
  · cases h
  · rename_i there hfollow
    simp only [Except.ok.injEq, Prod.mk.injEq] at h
    obtain ⟨rfl, hending⟩ := h
    obtain ⟨hplain, htext⟩ := Path.text_of_ending hending
    refine ⟨hplain, ?_⟩
    rcases htext with htext | ⟨text, htext⟩
    · left
      have hpath : path = name := String.toList_inj.1 htext
      refine ⟨hpath, ?_⟩
      rw [htext, Route.ofText_plain hplain] at hfollow
      simpa [follow, Path.isAbsolute_of_isPlain hplain] using hfollow
    · right
      refine ⟨text, htext, ?_⟩
      rw [htext, Route.ofText_append hplain, ← htext] at hfollow
      exact hfollow

theorem resolve_plain (hplain : Path.IsPlain name.toList) (hfits : Route.Fits name) :
    disk.resolve name = .ok (disk.working, .name name false) := by
  rw [resolve_of_fits disk hfits, Route.ofText_plain hplain, Path.isAbsolute_of_isPlain hplain,
    String.ofList_toList]
  rfl

/-- The temporary sibling of a path that ends at a name ends in the same directory. -/
theorem resolve_temporary (h : disk.resolve path = .ok (here, .name name false)) :
    Path.temporary path ≠ "" ∧ (Route.Fits (Path.temporary path) →
      disk.resolve (Path.temporary path) = .ok (here, .name (temporaryName name) false)) := by
  obtain ⟨hplain, ⟨rfl, rfl⟩ | ⟨text, htext, hfollow⟩⟩ := text_of_resolve h
  · have hplain' := isPlain_temporaryName hplain
    rw [(Path.parent?_of_plain hplain).2, ← temporaryName]
    exact ⟨fun heq => hplain'.2.1 (by rw [heq]; rfl), resolve_plain hplain'⟩
  · have hplain' := isPlain_temporaryName hplain
    obtain ⟨parent, -, hne, -, hleads, htemporary⟩ := exists_parent htext hplain hfollow
    obtain ⟨text', htext', -⟩ := Path.join_eq hne hplain'
    rw [htemporary, ← temporaryName]
    refine ⟨fun heq => ?_, resolve_join hne hplain' hleads⟩
    rw [heq] at htext'
    simp at htext'

/-- **A path that ends at a name** is the path of a file, if the temporary sibling's name is not too
long. -/
theorem isFilePath_of_resolve (h : disk.resolve path = .ok (here, .name name false))
    (hshort : (temporaryName name).utf8ByteSize ≤ Route.nameLimit) :
    disk.IsFilePath path here name := by
  have hshort' : name.utf8ByteSize ≤ Route.nameLimit := by
    rw [temporaryName, String.utf8ByteSize_append] at hshort
    omega
  refine ⟨⟨fun _ => h, hshort'⟩, ⟨(resolve_temporary h).2, hshort⟩, ?_⟩
  obtain ⟨hplain, ⟨rfl, rfl⟩ | ⟨text, htext, hfollow⟩⟩ := text_of_resolve h
  · exact ⟨"", (Path.parent?_of_plain hplain).1, fun _ => by decide, rfl⟩
  · obtain ⟨parent, hparent, hne, hprefix, hleads, -⟩ := exists_parent htext hplain hfollow
    refine ⟨parent, hparent, ?_, ?_⟩
    · rw [directoryOf_of_ne hne]
      exact Route.fits_of_prefix hne hprefix
    · rw [directoryOf_of_ne hne]
      exact hleads

/-- **A path whose sibling is seen to be missing** has room for it. -/
theorem isFilePath_of_missing (h : disk.resolve path = .ok (here, .name name false))
    (hnone : disk.lookup (Path.temporary path) = .error .notFound) :
    disk.IsFilePath path here name ∧ Route.Fits (Path.temporary path) ∧
      disk.entry? (here ++ [temporaryName name]) = none := by
  obtain ⟨hne, hresolve⟩ := resolve_temporary h
  by_cases hfits : Route.Fits (Path.temporary path)
  · rw [lookup, hresolve hfits] at hnone
    dsimp only at hnone
    by_cases hlong : Route.nameLimit < (temporaryName name).utf8ByteSize
    · rw [find, if_pos hlong] at hnone
      cases hnone
    · rw [find, if_neg hlong] at hnone
      refine ⟨isFilePath_of_resolve h (Nat.le_of_not_lt hlong), hfits, ?_⟩
      cases hentry : disk.entry? (here ++ [temporaryName name]) with
      | none => rfl
      | some entry =>
        rw [hentry] at hnone
        cases hnone
  · obtain ⟨e, he, hother⟩ := Route.ofPath_of_not_fits_of_ne hfits hne
    rw [lookup, resolve, he] at hnone
    exact absurd (Except.error.inj hnone) hother

/-- **No call finds or makes the temporary sibling** of a path. -/
def Blocked (path : String) : Prop :=
  ∀ disk : FileSystem, (∃ e, openWrite (Path.temporary path) disk = .error e disk) ∧
    disk.exists (Path.temporary path) = false

theorem blocked_of_not_fits (h : ¬ Route.Fits (Path.temporary path)) : Blocked path := by
  intro disk
  obtain ⟨e, he⟩ := openWrite_of_not_fits h
  obtain ⟨e', he'⟩ := disk.lookup_of_not_fits h
  exact ⟨⟨e, he disk⟩, by rw [FileSystem.exists, he']; rfl⟩

theorem blocked_of_long (h : disk.resolve path = .ok (here, .name name false))
    (hlong : Route.nameLimit < (temporaryName name).utf8ByteSize) : Blocked path := by
  by_cases hfits : Route.Fits (Path.temporary path)
  · intro disk'
    have hending := (resolve_temporary h).2 hfits
    have hresolve := resolve_of_fits disk' hfits
    rw [resolve_of_fits disk hfits] at hending
    split at hending
    · cases hending
    rw [(Prod.mk.inj (Except.ok.inj hending)).2] at hresolve
    have hfind (there : Place) : disk'.find there (temporaryName name) = .error .nameTooLong := by
      rw [find, if_pos hlong]
    split at hresolve
    · rename_i e _
      refine ⟨⟨e, ?_⟩, ?_⟩
      · simp only [openWrite, bind, EStateM.bind, get_apply, hresolve]
        rfl
      · rw [FileSystem.exists, lookup, hresolve]
        rfl
    · rename_i there _
      refine ⟨⟨.nameTooLong, ?_⟩, ?_⟩
      · simp only [openWrite, bind, EStateM.bind, get_apply, hresolve, hfind]
        rfl
      · rw [FileSystem.exists, lookup, hresolve]
        dsimp only
        rw [hfind]
        rfl
  · exact blocked_of_not_fits hfits

/-- **A path that ends at a name** has its sibling in the same directory, or nowhere. -/
theorem isFilePath_or_blocked (h : disk.resolve path = .ok (here, .name name false)) :
    (disk.IsFilePath path here name ∧ Route.Fits (Path.temporary path)) ∨ Blocked path := by
  by_cases hshort : (temporaryName name).utf8ByteSize ≤ Route.nameLimit
  · by_cases hfits : Route.Fits (Path.temporary path)
    · exact .inl ⟨isFilePath_of_resolve h hshort, hfits⟩
    · exact .inr (blocked_of_not_fits hfits)
  · exact .inr (blocked_of_long h (Nat.lt_of_not_le hshort))

end Replica.FileSystem
