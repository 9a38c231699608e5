/-
Names in a directory, and what the calls of the file system make of them.

A path to a directory keeps leading there as long as directories are only added
(`FileSystem.Keeps`), so the path of a file in it keeps standing for one name
(`FileSystem.Names`). For such a path each call is described by what the name
stands for. A path that is too long to be one is refused by every call.
-/
import Replica.Disk.Replacement
import Replica.Proofs.Disk.Route

namespace Replica

namespace Route

/-- Whether a text may be a path at all. -/
def Fits (path : String) : Prop :=
  '\x00' ∉ path.toList ∧ path ≠ "" ∧ path.utf8ByteSize < pathLimit

instance (path : String) : Decidable (Fits path) := by
  unfold Fits
  infer_instance

theorem ofPath_of_fits {path : String} (h : Fits path) : ofPath path = .ok (ofText path.toList) := by
  obtain ⟨hzero, hempty, hlong⟩ := h
  have hchars : path.toList ≠ [] := fun h => hempty (String.toList_eq_nil_iff.1 h)
  simp only [ofPath, hzero, hchars, if_false, Nat.not_le.2 hlong]

theorem ofPath_of_not_fits_of_ne {path : String} (h : ¬ Fits path) (hne : path ≠ "") :
    ∃ e, ofPath path = .error e ∧ e ≠ .notFound := by
  have hchars : path.toList ≠ [] := fun h => hne (String.toList_eq_nil_iff.1 h)
  simp only [ofPath, hchars, if_false]
  split
  · exact ⟨_, rfl, by decide⟩
  · rename_i hzero
    split
    · exact ⟨_, rfl, by decide⟩
    · rename_i hlong
      exact absurd ⟨hzero, hne, Nat.not_le.1 hlong⟩ h

theorem ofPath_of_not_fits {path : String} (h : ¬ Fits path) : ∃ e, ofPath path = .error e := by
  by_cases hne : path = ""
  · subst hne
    exact ⟨_, rfl⟩
  · obtain ⟨e, he, -⟩ := ofPath_of_not_fits_of_ne h hne
    exact ⟨e, he⟩

theorem fits_of_prefix {path front : String} (hne : front ≠ "") (h : front.toList <+: path.toList)
    (hfits : Fits path) : Fits front := by
  obtain ⟨rest, hrest⟩ := h
  obtain ⟨hzero, -, hlong⟩ := hfits
  have hpath : path = front ++ String.ofList rest := by
    rw [← String.toList_inj, String.toList_append, String.toList_ofList, hrest]
  refine ⟨fun hmem => hzero (by rw [← hrest]; exact List.mem_append_left _ hmem), hne, ?_⟩
  rw [hpath, String.utf8ByteSize_append] at hlong
  omega

end Route

namespace FileSystem

variable {disk disk' : FileSystem} {path : String} {here there : Place} {name : String}

/-! ## Following a path -/

/-- Every directory of the one is a directory of the other, and paths start in the same one. -/
structure Keeps (disk disk' : FileSystem) : Prop where
  directory {place : Place} (h : disk.entry? place = some .directory) :
    disk'.entry? place = some .directory
  working : disk'.working = disk.working

theorem Keeps.refl (disk : FileSystem) : Keeps disk disk := ⟨id, rfl⟩

theorem Keeps.trans {disk'' : FileSystem} (h : Keeps disk disk') (h' : Keeps disk' disk'') :
    Keeps disk disk'' :=
  ⟨fun hdir => h'.directory (h.directory hdir), h'.working.trans h.working⟩

theorem follow_append (disk : FileSystem) (here : Place) (front rest : List Piece) :
    disk.follow here (front ++ rest) =
      match disk.follow here front with
      | .error e => .error e
      | .ok there => disk.follow there rest := by
  induction front generalizing here with
  | nil => rfl
  | cons piece front ih =>
    rw [List.cons_append, follow, follow]
    cases disk.enter here piece with
    | error e => rfl
    | ok next => exact ih next

theorem follow_stays (disk : FileSystem) (here : Place) (n : Nat) :
    disk.follow here (List.replicate n .stay) = .ok here := by
  induction n with
  | zero => rfl
  | succ n ih =>
    rw [List.replicate_succ, follow]
    exact ih

theorem enter_name_iff {there : Place} :
    disk.enter here (.name name) = .ok there ↔
      disk.find here name = .ok (some .directory) ∧ there = here ++ [name] := by
  rw [enter]
  cases disk.find here name with
  | error e => simp
  | ok entry? =>
    cases entry? with
    | none => simp
    | some entry =>
      cases entry with
      | directory => simp [eq_comm]
      | file | full => simp

theorem find_keeps (h : Keeps disk disk') (hfind : disk.find here name = .ok (some .directory)) :
    disk'.find here name = .ok (some .directory) := by
  unfold find at hfind ⊢
  split at hfind
  · cases hfind
  · rename_i hshort
    rw [if_neg hshort]
    rw [Except.ok.injEq] at hfind ⊢
    exact h.directory hfind

theorem enter_keeps {piece : Piece} (h : Keeps disk disk') (henter : disk.enter here piece = .ok there) :
    disk'.enter here piece = .ok there := by
  cases piece with
  | stay | up => exact henter
  | name n =>
    obtain ⟨hfind, hthere⟩ := enter_name_iff.1 henter
    exact enter_name_iff.2 ⟨find_keeps h hfind, hthere⟩

theorem follow_keeps {pieces : List Piece} (h : Keeps disk disk')
    (hfollow : disk.follow here pieces = .ok there) : disk'.follow here pieces = .ok there := by
  induction pieces generalizing here with
  | nil => exact hfollow
  | cons piece pieces ih =>
    rw [follow] at hfollow ⊢
    split at hfollow
    · cases hfollow
    · rename_i next henter
      rw [enter_keeps h henter]
      exact ih hfollow

/-- The text of a path leads to a directory. -/
def Leads (disk : FileSystem) (text : List Char) (here : Place) : Prop :=
  disk.follow (if Path.isAbsolute text then [] else disk.working) (Route.pieces text) = .ok here

theorem Leads.keeps {text : List Char} (hleads : disk.Leads text here) (h : Keeps disk disk') :
    disk'.Leads text here := by
  unfold Leads at hleads ⊢
  rw [h.working]
  exact follow_keeps h hleads

theorem ofText_cases (text : List Char) :
    (Route.pieces text = [] ∧ Route.ofText text = ⟨Path.isAbsolute text, [], .root⟩) ∨
      ∃ through slash last, Route.pieces text = through ++ [last] ∧
        Route.ofText text = ⟨Path.isAbsolute text, through, .ofPiece slash last⟩ := by
  simp only [Route.ofText]
  cases htexts : (((Path.pieces 0 [] text).map (·.name)).filter (· ≠ [])).reverse with
  | nil =>
    refine .inl ⟨?_, rfl⟩
    rw [Route.pieces, List.reverse_eq_nil_iff.1 htexts]
    rfl
  | cons last before =>
    refine .inr ⟨_, _, _, ?_, rfl⟩
    rw [Route.pieces, ← List.reverse_reverse (List.filter _ _), htexts]
    simp

theorem resolve_of_fits (disk : FileSystem) (hfits : Route.Fits path) :
    disk.resolve path =
      match disk.follow (if (Route.ofText path.toList).isAbsolute then [] else disk.working)
          (Route.ofText path.toList).through with
      | .error e => .error e
      | .ok here => .ok (here, (Route.ofText path.toList).ending) := by
  unfold resolve
  rewrite [Route.ofPath_of_fits hfits]
  rfl

theorem resolve_of_not_fits (h : ¬ Route.Fits path) :
    ∃ e, ∀ disk : FileSystem, disk.resolve path = .error e := by
  obtain ⟨e, he⟩ := Route.ofPath_of_not_fits h
  exact ⟨e, fun disk => by rw [resolve, he]⟩

theorem fits_of_isDirectory (h : disk.isDirectory path = true) : Route.Fits path := by
  by_cases hfits : Route.Fits path
  · exact hfits
  · obtain ⟨e, he⟩ := resolve_of_not_fits hfits
    simp only [isDirectory, lookup, he] at h
    cases h

/-- **What a path to a directory is**: one whose pieces all lead on. -/
theorem isDirectory_iff_leads (hfits : Route.Fits path) :
    disk.isDirectory path = true ↔ ∃ here, disk.Leads path.toList here := by
  unfold isDirectory lookup Leads
  rw [resolve_of_fits disk hfits]
  rcases ofText_cases path.toList with ⟨hpieces, htext⟩ | ⟨through, slash, last, hpieces, htext⟩
  · rw [hpieces, htext]
    simp [follow]
  · rw [hpieces, htext]
    dsimp only
    simp only [follow_append]
    cases disk.follow (if Path.isAbsolute path.toList then [] else disk.working) through with
    | error e => simp
    | ok there =>
      cases last with
      | stay => simp [Ending.ofPiece, follow, enter]
      | up => simp [Ending.ofPiece, follow, enter]
      | name n =>
        simp only [Ending.ofPiece, follow, enter]
        cases disk.find there n with
        | error e => simp
        | ok entry? =>
          cases entry? with
          | none => simp
          | some entry => cases entry <;> cases slash <;> simp

/-! ## Names -/

/-- **A path stands for a name in a directory**, unless it is too long to be a path. -/
structure Names (disk : FileSystem) (path : String) (here : Place) (name : String) : Prop where
  resolve (h : Route.Fits path) : disk.resolve path = .ok (here, .name name false)
  short : name.utf8ByteSize ≤ Route.nameLimit

theorem Names.keeps (hnames : disk.Names path here name) (h : Keeps disk disk') :
    disk'.Names path here name := by
  refine ⟨fun hfits => ?_, hnames.short⟩
  have hresolve := hnames.resolve hfits
  rw [resolve_of_fits _ hfits] at hresolve ⊢
  rw [h.working]
  split at hresolve
  · cases hresolve
  · rename_i there hfollow
    rw [follow_keeps h hfollow]
    exact hresolve

theorem resolve_of_leads {text : List Char} (hpath : path.toList = text ++ '/' :: name.toList)
    (hname : Path.IsPlain name.toList)
    (hleads : disk.follow (if Path.isAbsolute path.toList then [] else disk.working)
      (Route.pieces text) = .ok here) (hfits : Route.Fits path) :
    disk.resolve path = .ok (here, .name name false) := by
  rw [resolve_of_fits disk hfits, hpath, Route.ofText_append hname, ← hpath]
  dsimp only
  rw [hleads, String.ofList_toList]

theorem resolve_join (hpath : path ≠ "") (hname : Path.IsPlain name.toList)
    (hleads : disk.Leads path.toList here) (hfits : Route.Fits (Path.join path name)) :
    disk.resolve (Path.join path name) = .ok (here, .name name false) := by
  obtain ⟨text, htext, hpieces, habsolute⟩ := Path.join_eq hpath hname
  refine resolve_of_leads htext hname ?_ hfits
  rw [hpieces, htext, habsolute]
  exact hleads

/-- **The path of a file in a directory** stands for its name there. -/
theorem names_join (hpath : path ≠ "") (hname : Path.IsPlain name.toList)
    (hshort : name.utf8ByteSize ≤ Route.nameLimit) (hleads : disk.Leads path.toList here) :
    disk.Names (Path.join path name) here name := ⟨resolve_join hpath hname hleads, hshort⟩

/-- The parent of a file leads where the text before its name leads, and so its temporary sibling lies
there too. -/
theorem exists_parent {text : List Char} (hpath : path.toList = text ++ '/' :: name.toList)
    (hname : Path.IsPlain name.toList)
    (hleads : disk.follow (if Path.isAbsolute path.toList then [] else disk.working)
      (Route.pieces text) = .ok here) :
    ∃ parent, Path.parent? path = some parent ∧ parent ≠ "" ∧ parent.toList <+: path.toList ∧
      disk.Leads parent.toList here ∧
      Path.temporary path = Path.join parent (name ++ ".tmp") := by
  obtain ⟨parent, hparent, hne, hprefix, habsolute, n, hstays⟩ := Path.parent?_eq hpath hname
  refine ⟨parent, hparent, hne, hprefix, ?_, ?_⟩
  · unfold Leads
    rw [habsolute]
    rw [hstays, follow_append] at hleads
    split at hleads
    · cases hleads
    · rename_i there hfollow
      rw [follow_stays] at hleads
      rw [hfollow, hleads]
  · rw [Path.temporary_eq hpath hname hparent, String.ofList_toList]

theorem exists_parent_join (hpath : path ≠ "") (hname : Path.IsPlain name.toList)
    (hleads : disk.Leads path.toList here) :
    ∃ parent, Path.parent? (Path.join path name) = some parent ∧ parent ≠ "" ∧
      parent.toList <+: (Path.join path name).toList ∧ disk.Leads parent.toList here ∧
      Path.temporary (Path.join path name) = Path.join parent (name ++ ".tmp") := by
  obtain ⟨text, htext, hpieces, habsolute⟩ := Path.join_eq hpath hname
  refine exists_parent htext hname ?_
  rw [hpieces, htext, habsolute]
  exact hleads

end FileSystem

end Replica
