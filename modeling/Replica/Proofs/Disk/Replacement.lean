/-
Replacing a file in a directory.

With no temporary file in the way a replacement goes through: the name stands for a
new file with the new bytes, and the temporary name is gone again
(`FileSystem.replaceWith_eq`). Where the path of the temporary file is too long,
nothing happens at all.
-/
import Replica.Proofs.Disk.FilePath
import Replica.Proofs.Table

namespace Replica.FileSystem

variable {disk disk' : FileSystem} {path : String} {here : Place} {name : String} {data : Bytes}

/-! ## Temporary files left behind -/

theorem IsFilePath.removeStale (h : disk.IsFilePath path here name) (htidy : disk.Tidy here) :
    (∃ removed disk', FileSystem.removeStale path disk = .ok removed disk' ∧
        Alters here [temporaryName name] disk disk' ∧
        (Route.Fits (Path.temporary path) → disk'.entry? (here ++ [temporaryName name]) = none)) ∨
      (Route.Fits (Path.temporary path) ∧
          disk.entry? (here ++ [temporaryName name]) = some .directory) ∧
        ∃ e, FileSystem.removeStale path disk = .error e disk := by
  simp only [FileSystem.removeStale, bind, EStateM.bind, get_apply]
  cases hexists : disk.exists (Path.temporary path) with
  | false =>
    refine .inl ⟨false, disk, rfl, .refl htidy _, fun hfits => ?_⟩
    by_cases hentry : disk.entry? (here ++ [temporaryName name]) = none
    · exact hentry
    · rw [h.temporary.exists_iff.2 ⟨hfits, hentry⟩] at hexists
      cases hexists
  | true =>
    obtain ⟨hfits, hthere⟩ := h.temporary.exists_iff.1 hexists
    simp only [if_true, EStateM.bind, h.temporary.remove hfits]
    cases hentry : disk.entry? (here ++ [temporaryName name]) with
    | none => exact absurd hentry hthere
    | some entry =>
      have hdrop (hfile : entry ≠ .directory) :
          Alters here [temporaryName name] disk (disk.dropName (here ++ [temporaryName name])) :=
        alters_dropName htidy (by rw [hentry]; exact fun heq => hfile (Option.some.inj heq))
      have hgone : FileSystem.entry? (disk.dropName (here ++ [temporaryName name]))
          (here ++ [temporaryName name]) = none := by
        rw [entry?_dropName, if_pos rfl]
      cases entry with
      | directory => exact .inr ⟨⟨hfits, rfl⟩, _, rfl⟩
      | file n => exact .inl ⟨true, _, rfl, hdrop (by simp), fun _ => hgone⟩
      | full => exact .inl ⟨true, _, rfl, hdrop (by simp), fun _ => hgone⟩

theorem IsFilePath.removeStale_of_none (h : disk.IsFilePath path here name)
    (hnone : disk.entry? (here ++ [temporaryName name]) = none) :
    FileSystem.removeStale path disk = .ok false disk := by
  have hexists : disk.exists (Path.temporary path) = false := by
    cases hexists : disk.exists (Path.temporary path) with
    | false => rfl
    | true => exact absurd hnone (h.temporary.exists_iff.1 hexists).2
  simp only [FileSystem.removeStale, bind, EStateM.bind, get_apply,
    hexists]
  rfl

/-! ## Replacing -/

/-- The file system with a name that stands for what another stood for. -/
def moveName (disk : FileSystem) (source target : Place) (entry : Entry) : FileSystem :=
  { disk with names := (disk.names.erase source).insert target entry }

/-- The file system with a new temporary file beside a name. -/
def withTemporary (disk : FileSystem) (here : Place) (name : String) (data : Bytes) : FileSystem :=
  (disk.withFile (here ++ [temporaryName name])).setBytes disk.fresh data

/-- The file system with the file under a name replaced. -/
def replaced (disk : FileSystem) (here : Place) (name : String) (data : Bytes) : FileSystem :=
  (disk.withTemporary here name data).moveName (here ++ [temporaryName name]) (here ++ [name])
    (.file disk.fresh)

theorem entry?_withTemporary (disk : FileSystem) (here : Place) (name : String) (data : Bytes)
    (place : Place) :
    FileSystem.entry? (disk.withTemporary here name data) place =
      if place = here ++ [temporaryName name] then some (.file disk.fresh) else disk.entry? place :=
  entry?_withFile disk here (temporaryName name) place

theorem setBytes_setBytes (disk : FileSystem) (n : Nat) (data data' : Bytes) :
    (disk.setBytes n data).setBytes n data' = disk.setBytes n data' := by
  simp only [setBytes, Table.insert_insert_self]

theorem alters_withTemporary (h : disk.Tidy here)
    (hnone : disk.entry? (here ++ [temporaryName name]) = none) (data : Bytes) :
    Alters here [temporaryName name] disk (disk.withTemporary here name data) := by
  have hmade := alters_withFile h hnone
  exact hmade.trans (alters_setBytes hmade.tidy (by rw [entry?_withFile, if_pos rfl]) data)

theorem entry?_moveName (disk : FileSystem) (here : Place) (source target : String) (entry : Entry)
    (place : Place) :
    FileSystem.entry? (disk.moveName (here ++ [source]) (here ++ [target]) entry) place =
      if place = here ++ [target] then some entry
      else if place = here ++ [source] then none else disk.entry? place := by
  unfold entry? moveName
  by_cases hroot : place = []
  · subst hroot
    simp
  · simp only [hroot, if_false, Table.get?_insert, Table.get?_erase]

theorem entry?_moveName_of_ne {source target place : Place} {entry : Entry}
    (hsource : place ≠ source) (htarget : place ≠ target) :
    FileSystem.entry? (disk.moveName source target entry) place = disk.entry? place := by
  unfold entry? moveName
  split
  · rfl
  · rw [Table.get?_insert, if_neg htarget, Table.get?_erase, if_neg hsource]

theorem keeps_moveName {source target : Place} (hsource : disk.entry? source ≠ some .directory)
    (htarget : disk.entry? target ≠ some .directory) (entry : Entry) :
    Keeps disk (disk.moveName source target entry) := by
  refine ⟨fun {place} hdir => ?_, rfl⟩
  rw [entry?_moveName_of_ne, hdir]
  · rintro rfl
    exact hsource hdir
  · rintro rfl
    exact htarget hdir

theorem alters_moveName {source target : String} {n : Nat} (h : disk.Tidy here)
    (hsource : disk.entry? (here ++ [source]) = some (.file n))
    (htarget : disk.entry? (here ++ [target]) ≠ some .directory) :
    Alters here [target, source] disk
      (disk.moveName (here ++ [source]) (here ++ [target]) (.file n)) := by
  have hfile {m : String} {entry : Entry}
      (hentry : FileSystem.entry?
        (disk.moveName (here ++ [source]) (here ++ [target]) (.file n)) (here ++ [m]) =
        some entry) :
      (m = target ∧ entry = .file n) ∨ (m ≠ source ∧ disk.entry? (here ++ [m]) = some entry) := by
    rw [entry?_moveName] at hentry
    split at hentry
    · rename_i hsame
      cases hentry
      exact .inl ⟨append_singleton_inj hsame, rfl⟩
    · split at hentry
      · cases hentry
      · rename_i hother
        exact .inr ⟨fun heq => hother (by rw [heq]), hentry⟩
  refine ⟨keeps_moveName (by simp [hsource]) htarget _, ⟨?_, ?_, ?_⟩, Nat.le_refl _, ?_, fun _ _ => rfl⟩
  · intro m hfull
    rcases hfile hfull with ⟨-, hentry⟩ | ⟨-, hentry⟩
    · cases hentry
    · exact h.plain hentry
  · intro m k hm
    rcases hfile hm with ⟨-, hentry⟩ | ⟨-, hentry⟩
    · cases hentry
      exact h.known hsource
    · exact h.known hentry
  · intro m m' k hm hm'
    rcases hfile hm with ⟨rfl, hentry⟩ | ⟨hne, hentry⟩
    · cases hentry
      rcases hfile hm' with ⟨rfl, -⟩ | ⟨hne', hentry'⟩
      · rfl
      · exact absurd (h.single hsource hentry') hne'
    · rcases hfile hm' with ⟨rfl, hentry'⟩ | ⟨-, hentry'⟩
      · cases hentry'
        exact absurd (h.single hsource hentry) hne
      · exact h.single hentry hentry'
  · intro m hm
    rw [entry?_moveName, if_neg, if_neg]
    · exact fun heq => hm (by rw [append_singleton_inj heq]; simp)
    · exact fun heq => hm (by rw [append_singleton_inj heq]; simp)

/-- What a replacement leaves: new bytes under the name, no temporary file, and all else as it was. -/
theorem alters_replaced (h : disk.Tidy here)
    (hnone : disk.entry? (here ++ [temporaryName name]) = none)
    (hentry : disk.entry? (here ++ [name]) ≠ some .directory) (data : Bytes) :
    Alters here [name, temporaryName name] disk (disk.replaced here name data) := by
  have hmade := alters_withTemporary h hnone data
  refine (hmade.mono (by simp)).trans (alters_moveName hmade.tidy ?_ ?_)
  · rw [entry?_withTemporary, if_pos rfl]
  · rw [entry?_withTemporary, if_neg]
    · exact hentry
    · exact fun heq => temporaryName_ne name (append_singleton_inj heq).symm

theorem entry?_replaced (disk : FileSystem) (here : Place) (name : String) (data : Bytes) :
    FileSystem.entry? (disk.replaced here name data) (here ++ [name]) = some (.file disk.fresh) ∧
      FileSystem.entry? (disk.replaced here name data) (here ++ [temporaryName name]) = none ∧
      (disk.replaced here name data).contents.get? disk.fresh = some data := by
  refine ⟨?_, ?_, ?_⟩
  · rw [replaced, entry?_moveName, if_pos rfl]
  · rw [replaced, entry?_moveName, if_neg, if_pos rfl]
    exact fun heq => temporaryName_ne name (append_singleton_inj heq)
  · exact (get?_setBytes ..).trans (if_pos rfl)

/-! ## One call of a replacement -/

section Steps

open Replacement

variable {n : Nat}

theorem IsFilePath.create_of_none (h : disk.IsFilePath path here name)
    (hfits : Route.Fits (Path.temporary path))
    (hnone : disk.entry? (here ++ [temporaryName name]) = none) :
    Step.create.run path disk = .ok () (disk.withFile (here ++ [temporaryName name])) := by
  simp only [Step.run, openEmpty, bind, EStateM.bind, h.temporary.openWrite hfits, hnone]
  show EStateM.Result.ok () ((disk.withFile _).setBytes disk.fresh []) = _
  rw [setBytes, withFile, Table.insert_insert_self]

theorem IsFilePath.create_of_file (h : disk.IsFilePath path here name)
    (hfits : Route.Fits (Path.temporary path))
    (hentry : disk.entry? (here ++ [temporaryName name]) = some (.file n)) :
    Step.create.run path disk = .ok () (disk.setBytes n []) := by
  simp only [Step.run, openEmpty, bind, EStateM.bind, h.temporary.openWrite hfits, hentry]
  rfl

theorem IsFilePath.write_run (h : disk.IsFilePath path here name)
    (hfits : Route.Fits (Path.temporary path))
    (hentry : disk.entry? (here ++ [temporaryName name]) = some (.file n)) (data : Bytes) :
    (Step.write data).run path disk = .ok () (disk.setBytes n (disk.bytes n ++ data)) := by
  simp only [Step.run, bind, EStateM.bind, h.temporary.openRead hfits hentry, FileSystem.append,
    modify_apply]

theorem IsFilePath.sync_run (h : disk.IsFilePath path here name)
    (hfits : Route.Fits (Path.temporary path))
    (hentry : disk.entry? (here ++ [temporaryName name]) = some (.file n)) :
    Step.sync.run path disk = .ok () disk := by
  simp only [Step.run, bind, EStateM.bind, h.temporary.openRead hfits hentry]
  rfl

theorem IsFilePath.rename_run (h : disk.IsFilePath path here name) (hfits : Route.Fits path)
    (hfits' : Route.Fits (Path.temporary path))
    (hentry : disk.entry? (here ++ [temporaryName name]) = some (.file n))
    (htarget : disk.entry? (here ++ [name]) ≠ some .directory) :
    Step.rename.run path disk = .ok ()
      (disk.moveName (here ++ [temporaryName name]) (here ++ [name]) (.file n)) := by
  simp only [Step.run, FileSystem.rename, bind, EStateM.bind, get_apply,
    h.temporary.resolve hfits', h.names.resolve hfits, find_of_short _ _ h.temporary.short,
    find_of_short _ _ h.names.short, hentry, Bool.or_self, htarget]
  rfl

theorem IsFilePath.syncParent_run (h : disk.IsFilePath path here name) (hfits : Route.Fits path) :
    Step.syncParent.run path disk = .ok () disk := by
  obtain ⟨parent, hparent, hfits', hleads⟩ := h.parent
  have hdir := (isDirectory_iff_leads (hfits' hfits)).2 ⟨here, hleads⟩
  unfold isDirectory at hdir
  split at hdir
  · rename_i hlookup
    rw [directoryOf] at hlookup
    simp only [Step.run, hparent, bind, EStateM.bind, openRead, get_apply, hlookup]
    rfl
  · cases hdir

/-- A name stands for a file that holds these bytes. -/
def HasFile (disk : FileSystem) (here : Place) (name : String) (image : Bytes) : Prop :=
  ∃ n, disk.entry? (here ++ [name]) = some (.file n) ∧ disk.contents.get? n = some image

theorem IsFilePath.create_run (h : disk.IsFilePath path here name) (htidy : disk.Tidy here)
    (hfits : Route.Fits (Path.temporary path))
    (hentry : disk.entry? (here ++ [temporaryName name]) ≠ some .directory) :
    ∃ disk', Step.create.run path disk = .ok () disk' ∧
      Alters here [temporaryName name] disk disk' ∧ disk'.HasFile here (temporaryName name) [] := by
  cases hcase : disk.entry? (here ++ [temporaryName name]) with
  | none =>
    refine ⟨_, h.create_of_none hfits hcase, alters_withFile htidy hcase, disk.fresh, ?_, ?_⟩
    · rw [entry?_withFile, if_pos rfl]
    · exact Table.get?_insert_self ..
  | some entry =>
    cases entry with
    | directory => exact absurd hcase hentry
    | full => exact absurd hcase htidy.plain
    | file n =>
      refine ⟨_, h.create_of_file hfits hcase, alters_setBytes htidy hcase [], n, hcase, ?_⟩
      rw [get?_setBytes, if_pos rfl]

theorem IsFilePath.write_hasFile {image : Bytes} (h : disk.IsFilePath path here name)
    (htidy : disk.Tidy here) (hfits : Route.Fits (Path.temporary path))
    (hfile : disk.HasFile here (temporaryName name) image) (data : Bytes) :
    ∃ disk', (Step.write data).run path disk = .ok () disk' ∧
      Alters here [temporaryName name] disk disk' ∧
      disk'.HasFile here (temporaryName name) (image ++ data) := by
  obtain ⟨n, hentry, hbytes⟩ := hfile
  refine ⟨_, h.write_run hfits hentry data, alters_setBytes htidy hentry _, n, hentry, ?_⟩
  rw [get?_setBytes, if_pos rfl, bytes_of_get? hbytes]

end Steps

/-! ## Calls in order -/

section Calls

open Replacement

theorem runFrom_none_cons (path : String) (n : Nat) (step : Step) (rest : List Step)
    (disk : FileSystem) :
    runFrom none path n (step :: rest) disk =
      match step.run path disk with
      | .error e disk' => .error e disk'
      | .ok _ disk' => runFrom none path (n + 1) rest disk' := by
  rw [runFrom]
  simp only [bind, EStateM.bind]
  cases step.run path disk <;> rfl

theorem runFrom_some_cons (m : Mishap) (path : String) (n : Nat) (step : Step) (rest : List Step)
    (disk : FileSystem) :
    runFrom (some m) path n (step :: rest) disk =
      if m.step = n then
        match step.leave path m.written disk with
        | .error e disk' => .error e disk'
        | .ok _ disk' => .error m.error disk'
      else
        match step.run path disk with
        | .error e disk' => .error e disk'
        | .ok _ disk' => runFrom (some m) path (n + 1) rest disk' := by
  rw [runFrom]
  simp only [bind]
  split
  · simp only [EStateM.bind]
    cases step.leave path m.written disk <;> rfl
  · simp only [EStateM.bind]
    cases step.run path disk <;> rfl

theorem runFrom_snoc {n : Nat} {before : List Step} {step : Step} {disk disk₁ disk₂ : FileSystem}
    (hrun : runFrom none path n before disk = .ok () disk₁)
    (hstep : step.run path disk₁ = .ok () disk₂) :
    runFrom none path n (before ++ [step]) disk = .ok () disk₂ := by
  induction before generalizing n disk with
  | nil =>
    cases hrun
    rw [List.nil_append, runFrom_none_cons, hstep]
    rfl
  | cons first before ih =>
    rw [runFrom_none_cons] at hrun
    rw [List.cons_append, runFrom_none_cons]
    cases hfirst : first.run path disk with
    | error e disk' =>
      rw [hfirst] at hrun
      cases hrun
    | ok a disk' =>
      rw [hfirst] at hrun
      exact ih hrun

/-- **A call that fails on its own** leaves what the calls before it did, and what it leaves itself. -/
theorem runFrom_interrupted {m : Mishap} {n : Nat} {before after : List Step} {step : Step}
    {disk disk₁ : FileSystem} (hrun : runFrom none path n before disk = .ok () disk₁)
    (hm : m.step = n + before.length) :
    runFrom (some m) path n (before ++ step :: after) disk =
      match step.leave path m.written disk₁ with
      | .error e disk' => .error e disk'
      | .ok _ disk' => .error m.error disk' := by
  induction before generalizing n disk with
  | nil =>
    cases hrun
    rw [List.nil_append, runFrom_some_cons, if_pos (by simpa using hm)]
  | cons first before ih =>
    rw [List.length_cons] at hm
    rw [runFrom_none_cons] at hrun
    rw [List.cons_append, runFrom_some_cons, if_neg (by omega)]
    cases hfirst : first.run path disk with
    | error e disk' =>
      rw [hfirst] at hrun
      cases hrun
    | ok a disk' =>
      rw [hfirst] at hrun
      exact ih hrun (by omega)

theorem runFrom_beyond {m : Mishap} {n : Nat} {steps : List Step} (hm : n + steps.length ≤ m.step)
    (disk : FileSystem) : runFrom (some m) path n steps disk = runFrom none path n steps disk := by
  induction steps generalizing n disk with
  | nil => rfl
  | cons step rest ih =>
    rw [List.length_cons] at hm
    rw [runFrom_some_cons, runFrom_none_cons, if_neg (by omega)]
    cases step.run path disk with
    | error e disk' => rfl
    | ok a disk' => exact ih (by omega) disk'

end Calls

/-- **A replacement** with no temporary file in the way. -/
theorem IsFilePath.replaceWith_eq (h : disk.IsFilePath path here name) (htidy : disk.Tidy here)
    (hfits : Route.Fits path) (hfits' : Route.Fits (Path.temporary path))
    (hnone : disk.entry? (here ++ [temporaryName name]) = none)
    (hentry : disk.entry? (here ++ [name]) ≠ some .directory) :
    replaceWith none path data disk = .ok () (disk.replaced here name data) := by
  have hmade := alters_withFile htidy hnone
  have hwrite := (h.keeps hmade.keeps).write_run hfits'
    (n := disk.fresh) (by rw [entry?_withFile, if_pos rfl]) data
  rw [bytes_of_get? (show (disk.withFile _).contents.get? disk.fresh = some [] from
    Table.get?_insert_self ..), List.nil_append, ← withTemporary] at hwrite
  have hthere := h.keeps (alters_withTemporary htidy hnone data).keeps
  have htemporary : FileSystem.entry? (disk.withTemporary here name data)
      (here ++ [temporaryName name]) = some (.file disk.fresh) := by
    rw [entry?_withTemporary, if_pos rfl]
  have htarget : FileSystem.entry? (disk.withTemporary here name data) (here ++ [name]) ≠
      some .directory := by
    rw [entry?_withTemporary, if_neg]
    · exact hentry
    · exact fun heq => temporaryName_ne name (append_singleton_inj heq).symm
  have hrename := hthere.rename_run hfits hfits' htemporary htarget
  rw [← replaced] at hrename
  have hparent := (h.keeps (alters_replaced htidy hnone hentry data).keeps).syncParent_run hfits
  simp only [replaceWith, Replacement.steps, runFrom_none_cons, h.create_of_none hfits' hnone, hwrite,
    hthere.sync_run hfits' htemporary, hrename, hparent]
  rfl

theorem replaceWith_of_not_fits (h : ¬ Route.Fits (Path.temporary path)) :
    ∃ e, ∀ (data : Bytes) (disk : FileSystem), replaceWith none path data disk = .error e disk := by
  obtain ⟨e, he⟩ := openWrite_of_not_fits h
  refine ⟨e, fun data disk => ?_⟩
  have hcreate : Replacement.Step.create.run path disk = .error e disk := by
    simp only [Replacement.Step.run, openEmpty, bind, EStateM.bind, he]
  simp only [replaceWith, Replacement.steps, runFrom_none_cons, hcreate]

end Replica.FileSystem
