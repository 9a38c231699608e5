/-
What is left of a replacement, wherever it stops.

Up to the renaming the temporary file alone has changed (`Undone`); from the
renaming on the name stands for the new bytes and there is no temporary file
(`Done`). Either way the file can be replaced again, and the temporary file that
may be left can be removed (`Replaceable`).
-/
import Replica.Focus
import Replica.Proofs.Disk.Replacement

namespace Replica.FileSystem

open Replacement

variable {disk disk' : FileSystem} {path : String} {here : Place} {name : String} {data : Bytes}
  {m : Mishap} {mishap : Option Mishap}

/-- **A file that can be replaced**: its path has a sibling, and no directory stands in the place of
either. There may be a file, or one that an earlier replacement left as the sibling. -/
structure Replaceable (disk : FileSystem) (path : String) (here : Place) (name : String) : Prop where
  isFilePath : disk.IsFilePath path here name
  tidy : disk.Tidy here
  fits : Route.Fits path
  fitsTemporary : Route.Fits (Path.temporary path)
  target : disk.entry? (here ++ [name]) ≠ some .directory
  temporary : disk.entry? (here ++ [temporaryName name]) ≠ some .directory

/-- **Nothing has been replaced**: all that may have changed is the temporary file. -/
structure Undone (here : Place) (name : String) (disk disk' : FileSystem) : Prop where
  alters : Alters here [temporaryName name] disk disk'
  temporary : disk'.entry? (here ++ [temporaryName name]) ≠ some .directory

/-- **The file has been replaced**: it holds the new bytes, and there is no temporary file. -/
structure Done (here : Place) (name : String) (data : Bytes) (disk disk' : FileSystem) : Prop where
  alters : Alters here [name, temporaryName name] disk disk'
  file : disk'.HasFile here name data
  gone : disk'.entry? (here ++ [temporaryName name]) = none

theorem HasFile.ne_directory (h : disk.HasFile here name data) :
    disk.entry? (here ++ [name]) ≠ some .directory := by
  obtain ⟨n, hentry, -⟩ := h
  simp [hentry]

theorem HasFile.alters {touched : List String} (h : disk.HasFile here name data)
    (halters : Alters here touched disk disk') (hname : name ∉ touched) :
    disk'.HasFile here name data := by
  obtain ⟨n, hentry, hbytes⟩ := h
  exact ⟨n, by rw [halters.entry hname, hentry], by rw [halters.contents hname hentry, hbytes]⟩

theorem name_not_mem_temporary (name : String) : name ∉ [temporaryName name] := by
  simp [(temporaryName_ne name).symm]

namespace Undone

theorem entry (h : Undone here name disk disk') :
    disk'.entry? (here ++ [name]) = disk.entry? (here ++ [name]) :=
  h.alters.entry (name_not_mem_temporary name)

theorem refl (h : disk.Replaceable path here name) : Undone here name disk disk :=
  ⟨.refl h.tidy _, h.temporary⟩

theorem trans {disk'' : FileSystem} (h : Undone here name disk disk') (h' : Undone here name disk' disk'') :
    Undone here name disk disk'' := ⟨h.alters.trans h'.alters, h'.temporary⟩

theorem replaceable (h : Undone here name disk disk') (hdisk : disk.Replaceable path here name) :
    disk'.Replaceable path here name :=
  ⟨hdisk.isFilePath.keeps h.alters.keeps, h.alters.tidy, hdisk.fits, hdisk.fitsTemporary,
    by rw [h.entry]; exact hdisk.target, h.temporary⟩

end Undone

theorem Done.replaceable (h : Done here name data disk disk') (hdisk : disk.Replaceable path here name) :
    disk'.Replaceable path here name :=
  ⟨hdisk.isFilePath.keeps h.alters.keeps, h.alters.tidy, hdisk.fits, hdisk.fitsTemporary,
    h.file.ne_directory, by simp [h.gone]⟩

theorem Undone.readAll (h : Undone here name disk disk') (hnames : disk.Names path here name)
    (hfits : Route.Fits path) : disk'.readAll path = disk.readAll path := by
  rw [FileSystem.readAll, FileSystem.readAll, hnames.lookup hfits,
    (hnames.keeps h.alters.keeps).lookup hfits, h.entry]
  cases hentry : disk.entry? (here ++ [name]) with
  | none => rfl
  | some entry =>
    cases entry with
    | file n =>
      dsimp only
      rw [h.alters.bytes (name_not_mem_temporary name) hentry]
    | directory | full => rfl

namespace Replaceable

theorem not_exists_temporary (h : disk.Replaceable path here name)
    (hgone : disk.entry? (here ++ [temporaryName name]) = none) :
    disk.exists (Path.temporary path) = false := by
  rw [← Bool.not_eq_true, h.isFilePath.temporary.exists_iff]
  simp [hgone]

/-! ## One call after the other -/

theorem created (h : disk.Replaceable path here name) :
    ∃ disk₁, runFrom none path 0 [.create] disk = .ok () disk₁ ∧ Undone here name disk disk₁ ∧
      disk₁.HasFile here (temporaryName name) [] := by
  obtain ⟨disk₁, hrun, halters, hfile⟩ :=
    h.isFilePath.create_run h.tidy h.fitsTemporary h.temporary
  exact ⟨disk₁, @runFrom_snoc path 0 [] _ _ _ _ rfl hrun, ⟨halters, hfile.ne_directory⟩, hfile⟩

theorem written (h : disk.Replaceable path here name) (data : Bytes) :
    ∃ disk₂, runFrom none path 0 [.create, .write data] disk = .ok () disk₂ ∧
      Undone here name disk disk₂ ∧ disk₂.HasFile here (temporaryName name) data := by
  obtain ⟨disk₁, hcreated, hundone, hfile⟩ := h.created
  obtain ⟨disk₂, hwrite, halters, hfile'⟩ := (hundone.replaceable h).isFilePath.write_hasFile
    hundone.alters.tidy h.fitsTemporary hfile data
  exact ⟨disk₂, runFrom_snoc hcreated hwrite, hundone.trans ⟨halters, hfile'.ne_directory⟩, hfile'⟩

theorem synced (h : disk.Replaceable path here name) (data : Bytes) :
    ∃ disk₂, runFrom none path 0 [.create, .write data, .sync] disk = .ok () disk₂ ∧
      Undone here name disk disk₂ ∧ disk₂.HasFile here (temporaryName name) data := by
  obtain ⟨disk₂, hwritten, hundone, hfile⟩ := h.written data
  obtain ⟨n, hentry, -⟩ := id hfile
  have hsync := (hundone.replaceable h).isFilePath.sync_run h.fitsTemporary hentry
  exact ⟨disk₂, runFrom_snoc hwritten hsync, hundone, hfile⟩

theorem renamed (h : disk.Replaceable path here name) (data : Bytes) :
    ∃ disk₃, runFrom none path 0 [.create, .write data, .sync, .rename] disk = .ok () disk₃ ∧
      Done here name data disk disk₃ := by
  obtain ⟨disk₂, hsynced, hundone, n, hentry, hbytes⟩ := h.synced data
  obtain ⟨hpath, htidy, -, -, htarget, -⟩ := hundone.replaceable h
  have hrename := hpath.rename_run h.fits h.fitsTemporary hentry htarget
  refine ⟨_, runFrom_snoc hsynced hrename, ?_, ⟨n, ?_, hbytes⟩, ?_⟩
  · exact (hundone.alters.mono (by simp)).trans (alters_moveName htidy hentry htarget)
  · rw [entry?_moveName, if_pos rfl]
  · rw [entry?_moveName, if_neg, if_pos rfl]
    exact fun heq => temporaryName_ne name (append_singleton_inj heq)

/-! ## Where a replacement stops -/

/-- **A replacement that stops before the renaming**, with the temporary file missing, empty, written
in part or written. -/
theorem replaceWith_before (h : disk.Replaceable path here name) (data : Bytes) (hm : m.step < 4) :
    ∃ disk', replaceWith (some m) path data disk = .error m.error disk' ∧
      Undone here name disk disk' := by
  obtain ⟨number, k, error⟩ := m
  match number, hm with
  | 0, _ => exact ⟨disk, @runFrom_interrupted path ⟨0, k, error⟩ 0 [] _ _ _ _ rfl rfl, .refl h⟩
  | 1, _ =>
    obtain ⟨disk₁, hcreated, hundone, hfile⟩ := h.created
    obtain ⟨disk₂, hwrite, halters, hfile'⟩ := (hundone.replaceable h).isFilePath.write_hasFile
      hundone.alters.tidy h.fitsTemporary hfile (data.take k)
    have hrun := @runFrom_interrupted path ⟨1, k, error⟩ 0 [.create] [.sync, .rename, .syncParent]
      (.write data) _ _ hcreated rfl
    refine ⟨disk₂, hrun.trans ?_, hundone.trans ⟨halters, hfile'.ne_directory⟩⟩
    rw [Step.leave, hwrite]
  | 2, _ =>
    obtain ⟨disk₂, hwritten, hundone, -⟩ := h.written data
    exact ⟨disk₂, @runFrom_interrupted path ⟨2, k, error⟩ 0 [.create, .write data]
      [.rename, .syncParent] .sync _ _ hwritten rfl, hundone⟩
  | 3, _ =>
    obtain ⟨disk₂, hsynced, hundone, -⟩ := h.synced data
    exact ⟨disk₂, @runFrom_interrupted path ⟨3, k, error⟩ 0 [.create, .write data, .sync]
      [.syncParent] .rename _ _ hsynced rfl, hundone⟩

/-- **A replacement that stops behind the renaming** has replaced the file. -/
theorem replaceWith_behind (h : disk.Replaceable path here name) (data : Bytes) (hm : m.step = 4) :
    ∃ disk', replaceWith (some m) path data disk = .error m.error disk' ∧
      Done here name data disk disk' := by
  obtain ⟨disk₃, hrenamed, hdone⟩ := h.renamed data
  exact ⟨disk₃, @runFrom_interrupted path m 0 [.create, .write data, .sync, .rename] []
    .syncParent _ _ hrenamed hm, hdone⟩

/-- **A replacement that goes through.** -/
theorem replaceWith_through (h : disk.Replaceable path here name) (data : Bytes)
    (hm : ∀ m, mishap = some m → 4 < m.step) :
    ∃ disk', replaceWith mishap path data disk = .ok () disk' ∧ Done here name data disk disk' := by
  obtain ⟨disk₃, hrenamed, hdone⟩ := h.renamed data
  have hparent := (hdone.replaceable h).isFilePath.syncParent_run h.fits
  have hrun : replaceWith none path data disk = .ok () disk₃ := runFrom_snoc hrenamed hparent
  refine ⟨disk₃, ?_, hdone⟩
  cases mishap with
  | none => exact hrun
  | some m =>
    have hbeyond := hm m rfl
    exact (runFrom_beyond (by simp only [steps, List.length_cons, List.length_nil]; omega) disk).trans
      hrun

/-- **A replacement** goes through, or it stops before the renaming or behind it. -/
theorem replaceWith_cases (h : disk.Replaceable path here name) (mishap : Option Mishap)
    (data : Bytes) :
    (∃ disk', replaceWith mishap path data disk = .ok () disk' ∧
        (∀ m, mishap = some m → 4 < m.step) ∧ Done here name data disk disk') ∨
      ∃ m disk', mishap = some m ∧ replaceWith mishap path data disk = .error m.error disk' ∧
        (m.step < 4 ∧ Undone here name disk disk' ∨ m.step = 4 ∧ Done here name data disk disk') := by
  cases mishap with
  | none =>
    obtain ⟨disk', hrun, hdone⟩ := @replaceWith_through disk path here name none h data (by simp)
    exact .inl ⟨disk', hrun, by simp, hdone⟩
  | some m =>
    rcases Nat.lt_trichotomy m.step 4 with hbefore | hbehind | hbeyond
    · obtain ⟨disk', hrun, hundone⟩ := h.replaceWith_before data hbefore
      exact .inr ⟨m, disk', rfl, hrun, .inl ⟨hbefore, hundone⟩⟩
    · obtain ⟨disk', hrun, hdone⟩ := h.replaceWith_behind data hbehind
      exact .inr ⟨m, disk', rfl, hrun, .inr ⟨hbehind, hdone⟩⟩
    · have hthrough : ∀ m', some m = some m' → 4 < m'.step := by
        rintro _ ⟨⟩
        exact hbeyond
      obtain ⟨disk', hrun, hdone⟩ := h.replaceWith_through data hthrough
      exact .inl ⟨disk', hrun, hthrough, hdone⟩

theorem outcome_replaceWith (h : disk.Replaceable path here name) (mishap : Option Mishap)
    (data : Bytes) :
    (outcome (replaceWith mishap path data) disk).2.Replaceable path here name := by
  rcases h.replaceWith_cases mishap data with
    ⟨disk', hrun, -, hdone⟩ | ⟨m, disk', -, hrun, ⟨-, hundone⟩ | ⟨-, hdone⟩⟩
  · rw [outcome, hrun]
    exact hdone.replaceable h
  · rw [outcome, hrun]
    exact hundone.replaceable h
  · rw [outcome, hrun]
    exact hdone.replaceable h

/-! ## What an interrupted replacement leaves -/

/-- **The temporary file that was left** is removed, and nothing else. -/
theorem removeStale (h : disk.Replaceable path here name) :
    ∃ removed disk', FileSystem.removeStale path disk = .ok removed disk' ∧
      Undone here name disk disk' ∧ disk'.entry? (here ++ [temporaryName name]) = none := by
  rcases h.isFilePath.removeStale h.tidy with
    ⟨removed, disk', hrun, halters, hgone⟩ | ⟨⟨-, hdirectory⟩, -⟩
  · have hnone := hgone h.fitsTemporary
    exact ⟨removed, disk', hrun, ⟨halters, by simp [hnone]⟩, hnone⟩
  · exact absurd hdirectory h.temporary

end Replaceable

theorem replaceable_nothing (hname : IsFileName name) (hfits : Route.Fits (Path.join "/" name))
    (hfits' : Route.Fits (Path.temporary (Path.join "/" name))) :
    Replaceable {} (Path.join "/" name) [] name := by
  have hleads : Leads {} "/".toList [] := rfl
  have hnone (other : String) : entry? {} ([] ++ [other]) = none := by rw [entry?_below]; rfl
  exact ⟨isFilePath_join (by decide) hname hleads, tidy_nothing [], hfits, hfits',
    by rw [hnone]; simp, by rw [hnone]; simp⟩

end Replica.FileSystem
