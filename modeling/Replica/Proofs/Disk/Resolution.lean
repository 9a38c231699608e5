/-
What calls that went through say of the path they were made for.

Nothing has to be known of a path beforehand. If removing the temporary file went
through, there is none and the path leads where it led (`removeStale_ok`). If the
temporary file could be made, it lies beside the file (`isFilePath_of_create`), and
if a whole replacement went through, the file can be replaced
(`replaceable_of_replaceWith`). Where no call ever makes the temporary file, no
replacement changes anything (`Blocked.replaceWith`).
-/
import Replica.Proofs.Disk.Interruption

namespace Replica.FileSystem

open Replacement

variable {disk disk' disk₁ : FileSystem} {path : String} {here : Place} {name : String} {data : Bytes}

/-! ## Directories stay the same -/

theorem keeps_of_dropName : Keeps (disk.dropName (here ++ [name])) disk :=
  ⟨entry?_of_dropName, rfl⟩

theorem keeps_withFile (hnone : disk.entry? (here ++ [name]) = none) :
    Keeps disk (disk.withFile (here ++ [name])) := by
  refine ⟨fun {place} hdir => ?_, rfl⟩
  rw [entry?_withFile, if_neg, hdir]
  rintro rfl
  rw [hnone] at hdir
  cases hdir

theorem keeps_of_withFile : Keeps (disk.withFile (here ++ [name])) disk := by
  refine ⟨fun {place} hdir => ?_, rfl⟩
  rw [entry?_withFile] at hdir
  split at hdir
  · cases hdir
  · exact hdir

/-- Two file systems with the same directories. -/
def SameDirectories (disk disk' : FileSystem) : Prop := Keeps disk disk' ∧ Keeps disk' disk

theorem SameDirectories.refl (disk : FileSystem) : SameDirectories disk disk := ⟨.refl _, .refl _⟩

theorem SameDirectories.trans {disk'' : FileSystem} (h : SameDirectories disk disk')
    (h' : SameDirectories disk' disk'') : SameDirectories disk disk'' :=
  ⟨h.1.trans h'.1, h'.2.trans h.2⟩

theorem sameDirectories_setBytes (disk : FileSystem) (n : Nat) (data : Bytes) :
    SameDirectories disk (disk.setBytes n data) := ⟨⟨id, rfl⟩, ⟨id, rfl⟩⟩

theorem resolve_keeps {p : Place × Ending} (h : disk.resolve path = .ok p) (hkeeps : Keeps disk disk') :
    disk'.resolve path = .ok p := by
  have hfits := fits_of_resolve h
  rw [resolve_of_fits _ hfits] at h ⊢
  rw [hkeeps.working]
  split at h
  · cases h
  · rename_i there hfollow
    rw [follow_keeps hkeeps hfollow]
    exact h

/-! ## Calls that went through -/

theorem find_ok {found : Option Entry} (h : disk.find here name = .ok found) :
    name.utf8ByteSize ≤ Route.nameLimit ∧ disk.entry? (here ++ [name]) = found := by
  rw [find] at h
  split at h
  · cases h
  · rename_i hshort
    exact ⟨Nat.not_lt.1 hshort, Except.ok.inj h⟩

theorem lookup_file {n : Nat} (h : disk.lookup path = .ok (.file n)) :
    ∃ here name, disk.resolve path = .ok (here, .name name false) ∧
      name.utf8ByteSize ≤ Route.nameLimit ∧ disk.entry? (here ++ [name]) = some (.file n) := by
  rw [lookup] at h
  split at h
  · cases h
  · rename_i here name slash hresolve
    split at h
    · cases h
    · cases h
    · rename_i entry hfind
      obtain ⟨hshort, hentry⟩ := find_ok hfind
      cases slash with
      | false =>
        cases h
        exact ⟨here, name, hresolve, hshort, hentry⟩
      | true => cases entry <;> cases h
  · cases h

theorem readAll_ok {image : Bytes} (h : disk.readAll path = .ok image) :
    ∃ n, disk.lookup path = .ok (.file n) ∧ disk.bytes n = image := by
  rw [readAll] at h
  cases hlookup : disk.lookup path with
  | error e =>
    rw [hlookup] at h
    cases h
  | ok entry =>
    rw [hlookup] at h
    cases entry with
    | file n => exact ⟨n, rfl, Except.ok.inj h⟩
    | directory | full => cases h

theorem Names.hasFile_of_readAll {image : Bytes} (h : disk.Names path here name)
    (hfits : Route.Fits path) (htidy : disk.Tidy here) (hread : disk.readAll path = .ok image) :
    disk.HasFile here name image := by
  obtain ⟨n, hlookup, hbytes⟩ := readAll_ok hread
  rw [h.lookup hfits] at hlookup
  cases hentry : disk.entry? (here ++ [name]) with
  | none =>
    rw [hentry] at hlookup
    cases hlookup
  | some entry =>
    rw [hentry] at hlookup
    cases hlookup
    obtain ⟨-, hknown⟩ := htidy.known hentry
    refine ⟨n, hentry, ?_⟩
    cases hget : disk.contents.get? n with
    | none => exact absurd hget hknown
    | some image' => rw [← hbytes, bytes_of_get? hget]

theorem Names.readAll {image : Bytes} (h : disk.Names path here name) (hfits : Route.Fits path)
    (hfile : disk.HasFile here name image) : disk.readAll path = .ok image := by
  obtain ⟨n, hentry, hbytes⟩ := hfile
  rw [FileSystem.readAll, h.lookup hfits, hentry]
  dsimp only
  rw [bytes_of_get? hbytes]

theorem Names.entry?_of_not_exists (h : disk.Names path here name) (hfits : Route.Fits path)
    (hnew : disk.exists path = false) : disk.entry? (here ++ [name]) = none := by
  cases hentry : disk.entry? (here ++ [name]) with
  | none => rfl
  | some entry =>
    rw [h.exists_iff.2 ⟨hfits, by simp [hentry]⟩] at hnew
    cases hnew

theorem openWrite_ok {entry : Entry} (hrun : openWrite path disk = .ok entry disk') :
    ∃ here name, disk.resolve path = .ok (here, .name name false) ∧
      disk.Names path here name ∧ disk.entry? (here ++ [name]) ≠ some .directory ∧
      SameDirectories disk disk' := by
  simp only [openWrite, bind, EStateM.bind, get_apply] at hrun
  cases hresolve : disk.resolve path with
  | error e =>
    rw [hresolve] at hrun
    cases hrun
  | ok p =>
    obtain ⟨here, ending⟩ := p
    rw [hresolve] at hrun
    cases ending with
    | stay | up | root => cases hrun
    | name name slash =>
      cases slash with
      | true => cases hrun
      | false =>
        dsimp only at hrun
        cases hfind : disk.find here name with
        | error e =>
          rw [hfind] at hrun
          cases hrun
        | ok found =>
          obtain ⟨hshort, hentry⟩ := find_ok hfind
          rw [hfind] at hrun
          refine ⟨here, name, rfl, ⟨fun _ => hresolve, hshort⟩, ?_⟩
          rw [hentry]
          cases found with
          | none =>
            cases hrun
            exact ⟨by simp, keeps_withFile hentry, keeps_of_withFile⟩
          | some there =>
            cases there with
            | directory => cases hrun
            | file n | full =>
              cases hrun
              exact ⟨by simp, .refl disk⟩

theorem rename_ok {old : String} {a : Unit} (hrun : rename old path disk = .ok a disk') :
    ∃ here name, disk.resolve path = .ok (here, .name name false) ∧
      disk.entry? (here ++ [name]) ≠ some .directory := by
  simp only [rename, bind, EStateM.bind, get_apply] at hrun
  cases hold : disk.resolve old with
  | error e =>
    rw [hold] at hrun
    cases hrun
  | ok source =>
    cases hnew : disk.resolve path with
    | error e =>
      rw [hold, hnew] at hrun
      cases hrun
    | ok target =>
      obtain ⟨there, oldEnding⟩ := source
      obtain ⟨here, ending⟩ := target
      rw [hold, hnew] at hrun
      cases oldEnding with
      | stay | up | root => cases ending <;> cases hrun
      | name oldName oldSlash =>
        cases ending with
        | stay | up | root => cases hrun
        | name name slash =>
          dsimp only at hrun
          cases hfind : disk.find there oldName with
          | error e =>
            rw [hfind] at hrun
            cases hrun
          | ok entry? =>
            cases hfind' : disk.find here name with
            | error e =>
              rw [hfind, hfind'] at hrun
              cases entry? <;> cases hrun
            | ok found =>
              obtain ⟨-, hentry⟩ := find_ok hfind'
              rw [hfind, hfind'] at hrun
              cases entry? with
              | none => cases hrun
              | some entry =>
                dsimp only at hrun
                split at hrun
                · cases hrun
                split at hrun
                · cases hrun
                rename_i hslash
                split at hrun
                · cases hrun
                rename_i htarget
                simp only [Bool.or_eq_true, not_or, Bool.not_eq_true] at hslash
                refine ⟨here, name, by rw [hslash.2], ?_⟩
                rw [hentry]
                exact htarget

theorem remove_ok {a : Unit} (hrun : remove path disk = .ok a disk') :
    ∃ here name, disk.resolve path = .ok (here, .name name false) ∧
      disk.entry? (here ++ [name]) ≠ some .directory ∧ disk' = disk.dropName (here ++ [name]) := by
  simp only [remove, bind, EStateM.bind, get_apply] at hrun
  cases hresolve : disk.resolve path with
  | error e =>
    rw [hresolve] at hrun
    cases hrun
  | ok p =>
    obtain ⟨here, ending⟩ := p
    rw [hresolve] at hrun
    cases ending with
    | stay | up | root => cases hrun
    | name name slash =>
      dsimp only at hrun
      cases hfind : disk.find here name with
      | error e =>
        rw [hfind] at hrun
        cases hrun
      | ok found =>
        obtain ⟨-, hentry⟩ := find_ok hfind
        rw [hfind] at hrun
        cases found with
        | none => cases hrun
        | some entry =>
          cases slash with
          | true => cases entry <;> cases hrun
          | false =>
            refine ⟨here, name, rfl, ?_⟩
            rw [hentry]
            cases entry with
            | directory => cases hrun
            | file n | full =>
              cases hrun
              exact ⟨by simp, rfl⟩

/-- **Removing the temporary file went through**: there is none, and no directory has gone. -/
theorem removeStale_ok {removed : Bool} (hrun : removeStale path disk = .ok removed disk₁) :
    disk₁.exists (Path.temporary path) = false ∧
      (disk₁ = disk ∨ disk.exists (Path.temporary path) = true ∧ ∃ here name,
        disk.resolve (Path.temporary path) = .ok (here, .name name false) ∧
        disk.entry? (here ++ [name]) ≠ some .directory ∧ disk₁ = disk.dropName (here ++ [name])) := by
  simp only [removeStale, bind, EStateM.bind, get_apply] at hrun
  cases hexists : disk.exists (Path.temporary path) with
  | false =>
    rw [hexists] at hrun
    cases hrun
    exact ⟨hexists, .inl rfl⟩
  | true =>
    rw [hexists, if_pos rfl] at hrun
    obtain ⟨_, disk₂, hremove, hremoved⟩ := bind_ok hrun
    cases hremoved
    obtain ⟨here, name, hresolve, hentry, rfl⟩ := remove_ok hremove
    refine ⟨?_, .inr ⟨rfl, here, name, hresolve, hentry, rfl⟩⟩
    have hgone : FileSystem.entry? (disk.dropName (here ++ [name])) (here ++ [name]) = none := by
      rw [entry?_dropName, if_pos rfl]
    rw [FileSystem.exists, lookup, resolve_keeps hresolve (keeps_dropName hentry)]
    dsimp only
    by_cases hlong : Route.nameLimit < name.utf8ByteSize
    · rw [find, if_pos hlong]
      rfl
    · rw [find, if_neg hlong, hgone]
      rfl

theorem tidy_removeStale {removed : Bool} (h : ∀ here, disk.Tidy here)
    (hrun : removeStale path disk = .ok removed disk₁) (here : Place) : disk₁.Tidy here := by
  rcases (removeStale_ok hrun).2 with rfl | ⟨-, there, other, -, -, rfl⟩
  · exact h here
  · exact tidy_dropName (h here)

theorem readAll_of_removeStale {removed : Bool} {image : Bytes}
    (hrun : removeStale path disk = .ok removed disk₁) (hread : disk₁.readAll path = .ok image) :
    disk.readAll path = .ok image := by
  rcases (removeStale_ok hrun).2 with rfl | ⟨-, there, other, -, -, rfl⟩
  · exact hread
  · rw [readAll, lookup] at hread ⊢
    cases hresolve : (disk.dropName (there ++ [other])).resolve path with
    | error e =>
      rw [hresolve] at hread
      cases hread
    | ok p =>
      obtain ⟨here, ending⟩ := p
      rw [hresolve] at hread
      rw [resolve_keeps hresolve keeps_of_dropName]
      cases ending with
      | stay | up | root => exact hread
      | name name slash =>
        dsimp only at hread ⊢
        cases hfind : (disk.dropName (there ++ [other])).find here name with
        | error e =>
          rw [hfind] at hread
          cases hread
        | ok found =>
          obtain ⟨hshort, hentry⟩ := find_ok hfind
          rw [hfind] at hread
          rw [find_of_short disk here hshort]
          cases found with
          | none => cases hread
          | some entry =>
            rw [entry?_of_dropName hentry]
            exact hread

theorem exists_of_removeStale {removed : Bool} (hrun : removeStale path disk = .ok removed disk₁)
    (hexists : disk.exists path = true) : disk₁.exists path = true := by
  rcases (removeStale_ok hrun).2 with rfl | ⟨hthere, there, other, hresolve', hentry', rfl⟩
  · exact hexists
  · rw [FileSystem.exists, lookup] at hexists ⊢
    cases hresolve : disk.resolve path with
    | error e =>
      rw [hresolve] at hexists
      cases hexists
    | ok p =>
      obtain ⟨here, ending⟩ := p
      rw [hresolve] at hexists
      rw [resolve_keeps hresolve (keeps_dropName hentry')]
      cases ending with
      | stay | up | root => rfl
      | name name slash =>
        dsimp only at hexists ⊢
        cases hfind : disk.find here name with
        | error e =>
          rw [hfind] at hexists
          cases hexists
        | ok found =>
          obtain ⟨hshort, hentry⟩ := find_ok hfind
          rw [hfind] at hexists
          cases found with
          | none => cases hexists
          | some entry =>
            -- The path ends elsewhere: the temporary file has another name and is no directory.
            have hother : here ++ [name] ≠ there ++ [other] := by
              intro hsame
              cases slash with
              | true =>
                rw [← hsame, hentry] at hentry'
                cases entry with
                | directory => exact hentry' rfl
                | file n | full => cases hexists
              | false =>
                rcases isFilePath_or_blocked hresolve with ⟨hfile, hfits⟩ | hblocked
                · have hplace := (hfile.temporary.resolve hfits).symm.trans hresolve'
                  simp only [Except.ok.injEq, Prod.mk.injEq, Ending.name.injEq, and_true] at hplace
                  obtain ⟨rfl, rfl⟩ := hplace
                  exact temporaryName_ne name (append_singleton_inj hsame).symm
                · rw [(hblocked disk).2] at hthere
                  cases hthere
            rw [find_of_short _ here hshort, entry?_dropName, if_neg hother, hentry]
            exact hexists

/-! ## Files that can be replaced -/

/-- **If the temporary file can be made**, it lies beside the file at the path. -/
theorem isFilePath_of_create {a : Unit} (hpath : disk.resolve path = .ok (here, .name name false))
    (hrun : Step.create.run path disk = .ok a disk') :
    disk.IsFilePath path here name ∧ Route.Fits (Path.temporary path) ∧
      disk.entry? (here ++ [temporaryName name]) ≠ some .directory := by
  obtain ⟨_, _, hmake, -⟩ := bind_ok hrun
  obtain ⟨entry, disk₁, hopen, -⟩ := bind_ok hmake
  rcases isFilePath_or_blocked hpath with ⟨hfile, hfits⟩ | hblocked
  · obtain ⟨there, other, hresolve, -, hentry, -⟩ := openWrite_ok hopen
    obtain ⟨rfl, rfl⟩ : here = there ∧ temporaryName name = other := by
      have hsame := (hfile.temporary.resolve hfits).symm.trans hresolve
      simp only [Except.ok.injEq, Prod.mk.injEq, Ending.name.injEq, and_true] at hsame
      exact hsame
    exact ⟨hfile, hfits, hentry⟩
  · obtain ⟨⟨e, he⟩, -⟩ := hblocked disk
    rw [he] at hopen
    cases hopen

theorem openRead_ok {entry : Entry} (hrun : openRead path disk = .ok entry disk') : disk' = disk := by
  simp only [openRead, bind, EStateM.bind, get_apply] at hrun
  cases hlookup : disk.lookup path with
  | ok found =>
    rw [hlookup] at hrun
    cases hrun
    rfl
  | error e =>
    rw [hlookup] at hrun
    cases hrun

theorem append_ok {entry : Entry} {a : Unit} (hrun : FileSystem.append entry data disk = .ok a disk') :
    SameDirectories disk disk' := by
  cases entry with
  | file n =>
    cases hrun
    exact sameDirectories_setBytes ..
  | directory => cases hrun
  | full =>
    unfold FileSystem.append at hrun
    dsimp only at hrun
    split at hrun
    · cases hrun
      exact .refl disk
    · cases hrun

theorem sameDirectories_of_run (data : Bytes) {step : Step} {a : Unit}
    (hstep : step ∈ [.create, .write data, .sync]) (hrun : step.run path disk = .ok a disk') :
    SameDirectories disk disk' := by
  simp only [List.mem_cons, List.not_mem_nil, or_false] at hstep
  rcases hstep with rfl | rfl | rfl
  · obtain ⟨_, _, hmake, hrest⟩ := bind_ok hrun
    cases hrest
    obtain ⟨entry, disk₁, hopen, hempty⟩ := bind_ok hmake
    obtain ⟨-, -, -, -, -, hsame⟩ := openWrite_ok hopen
    cases entry with
    | file n =>
      cases hempty
      exact hsame.trans (sameDirectories_setBytes ..)
    | directory | full =>
      cases hempty
      exact hsame
  · obtain ⟨entry, disk₁, hopen, happend⟩ := bind_ok hrun
    rw [openRead_ok hopen] at happend
    exact append_ok happend
  · obtain ⟨entry, disk₁, hopen, hsync⟩ := bind_ok hrun
    rw [openRead_ok hopen] at hsync
    cases entry with
    | full => cases hsync
    | directory | file n =>
      cases hsync
      exact .refl disk

/-- **If a replacement went through**, the file at the path can be replaced. -/
theorem replaceable_of_replaceWith {a : Unit} (htidy : ∀ here, disk.Tidy here)
    (hrun : replaceWith none path data disk = .ok a disk') :
    ∃ here name, disk.Replaceable path here name := by
  simp only [replaceWith, steps, runFrom_none_cons] at hrun
  split at hrun
  · cases hrun
  rename_i disk₁ hcreate
  split at hrun
  · cases hrun
  rename_i disk₂ hwrite
  split at hrun
  · cases hrun
  rename_i disk₃ hsync
  split at hrun
  · cases hrun
  rename_i disk₄ hrename
  have hsame : SameDirectories disk disk₃ := (sameDirectories_of_run data (by simp) hcreate).trans
    ((sameDirectories_of_run data (by simp) hwrite).trans
      (sameDirectories_of_run data (by simp) hsync))
  obtain ⟨here, name, hresolve, htarget⟩ := rename_ok hrename
  have hresolve₀ := resolve_keeps hresolve hsame.2
  obtain ⟨hpath, hfits, htemporary⟩ := isFilePath_of_create hresolve₀ hcreate
  exact ⟨here, name, hpath, htidy here, fits_of_resolve hresolve₀, hfits,
    fun hdirectory => htarget (hsame.1.directory hdirectory), htemporary⟩

/-- **Where no call makes the temporary file**, a replacement changes nothing. -/
theorem Blocked.replaceWith (h : Blocked path) (mishap : Option Mishap) (data : Bytes)
    (disk : FileSystem) : ∃ e, FileSystem.replaceWith mishap path data disk = .error e disk := by
  obtain ⟨⟨e, he⟩, -⟩ := h disk
  have hcreate : Step.create.run path disk = .error e disk := by
    simp only [Step.run, openEmpty, bind, EStateM.bind, he]
  cases mishap with
  | none =>
    refine ⟨e, ?_⟩
    rw [FileSystem.replaceWith, steps, runFrom_none_cons, hcreate]
  | some m =>
    rw [FileSystem.replaceWith, steps, runFrom_some_cons, hcreate]
    split
    · exact ⟨m.error, rfl⟩
    · exact ⟨e, rfl⟩

theorem Blocked.removeStale (h : Blocked path) (disk : FileSystem) :
    FileSystem.removeStale path disk = .ok false disk := by
  simp only [FileSystem.removeStale, bind, EStateM.bind, get_apply, (h disk).2]
  rfl

end Replica.FileSystem
