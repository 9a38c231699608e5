/-
What a replacement that fails leaves at the path.

`FileSystem.sight?` is what is seen at a path: nothing, a directory, or a file with its
bytes. Up to the renaming a replacement touches the temporary file and nothing else
(`Touches`), and wherever a path leads, its temporary file lies elsewhere
(`Touches.leavesPath`). A renaming that fails changes nothing. So the path shows what
it showed, unless it is the sync of the directory behind the renaming that fails: then
it shows the new bytes (`replaceWith_error`).
-/
import Replica.Proofs.Disk.Resolution

namespace Replica.FileSystem

open Replacement

variable {disk disk' disk'' : FileSystem} {path file : String} {here : Place} {name : String}
  {n : Nat} {data : Bytes} {mishap : Option Mishap}

/-! ## What is seen at a path -/

/-- What is seen at a path that leads anywhere. -/
inductive Sight
  | directory
  | file (data : Bytes)
  | full
  deriving DecidableEq, Repr, Inhabited

/-- What is seen at a path. -/
def sight? (disk : FileSystem) (path : String) : Option Sight :=
  match disk.lookup path with
  | .error _ => none
  | .ok .directory => some .directory
  | .ok (.file n) => some (.file (disk.bytes n))
  | .ok .full => some .full

theorem readAll_eq_ok_iff {image : Bytes} :
    disk.readAll path = .ok image ↔ disk.sight? path = some (.file image) := by
  unfold readAll sight?
  cases disk.lookup path with
  | error e => simp
  | ok entry => cases entry <;> simp

/-- What is seen of an entry at the end of a path; behind a slash only directories are. -/
def seen (disk : FileSystem) (slash : Bool) : Option Entry → Option Sight
  | none => none
  | some .directory => some .directory
  | some (.file n) => if slash then none else some (.file (disk.bytes n))
  | some .full => if slash then none else some .full

theorem seen_behind_slash (disk : FileSystem) (found : Option Entry) :
    disk.seen true found = if found = some .directory then some .directory else none := by
  cases found with
  | none => rfl
  | some entry => cases entry <;> rfl

theorem sight?_of_resolve {slash : Bool} (h : disk.resolve path = .ok (here, .name name slash)) :
    disk.sight? path = if Route.nameLimit < name.utf8ByteSize then none
      else disk.seen slash (disk.entry? (here ++ [name])) := by
  rw [sight?, lookup, h]
  dsimp only
  rw [find]
  by_cases hlong : Route.nameLimit < name.utf8ByteSize
  · rw [if_pos hlong, if_pos hlong]
  · rw [if_neg hlong, if_neg hlong]
    cases disk.entry? (here ++ [name]) with
    | none => rfl
    | some entry => cases entry <;> cases slash <;> rfl

/-- **A file system in which a file has one name**, and no number of a file is given out again. -/
structure OwnFiles (disk : FileSystem) : Prop where
  known {place : Place} {n : Nat} (h : disk.entry? place = some (.file n)) : n < disk.fresh
  single {place other : Place} {n : Nat} (h : disk.entry? place = some (.file n))
    (h' : disk.entry? other = some (.file n)) : other = place

theorem ownFiles_nothing : OwnFiles {} := by
  have hnone {place : Place} {n : Nat} : entry? {} place ≠ some (.file n) := by
    intro h
    unfold entry? at h
    split at h <;> cases h
  exact ⟨fun h => absurd h hnone, fun h => absurd h hnone⟩

theorem OwnFiles.withFile (h : disk.OwnFiles) (here : Place) (name : String) :
    OwnFiles (disk.withFile (here ++ [name])) := by
  have hcases {place : Place} {n : Nat}
      (hentry : entry? (disk.withFile (here ++ [name])) place = some (.file n)) :
      (place = here ++ [name] ∧ n = disk.fresh) ∨
        (disk.entry? place = some (.file n) ∧ n < disk.fresh) := by
    rw [entry?_withFile] at hentry
    split at hentry
    · rename_i hplace
      cases hentry
      exact .inl ⟨hplace, rfl⟩
    · exact .inr ⟨hentry, h.known hentry⟩
  refine ⟨fun hentry => ?_, fun hentry hentry' => ?_⟩
  · rcases hcases hentry with ⟨-, rfl⟩ | ⟨-, hlt⟩
    · exact Nat.lt_succ_self _
    · exact Nat.lt_succ_of_lt hlt
  · rcases hcases hentry with ⟨rfl, rfl⟩ | ⟨hold, hlt⟩
    · rcases hcases hentry' with ⟨rfl, -⟩ | ⟨-, hlt⟩
      · rfl
      · exact absurd hlt (Nat.lt_irrefl _)
    · rcases hcases hentry' with ⟨-, rfl⟩ | ⟨hold', -⟩
      · exact absurd hlt (Nat.lt_irrefl _)
      · exact h.single hold hold'

theorem OwnFiles.moveName {source target : Place} {entry : Entry} (h : disk.OwnFiles)
    (hsource : disk.entry? source = some entry) :
    OwnFiles (disk.moveName source target entry) := by
  have hcases {place : Place} {n : Nat}
      (hentry : entry? (disk.moveName source target entry) place = some (.file n)) :
      (place = target ∧ entry = .file n) ∨
        (place ≠ source ∧ disk.entry? place = some (.file n)) := by
    unfold entry? FileSystem.moveName at hentry
    split at hentry
    · cases hentry
    · rename_i hroot
      rw [Table.get?_insert] at hentry
      split at hentry
      · rename_i hplace
        exact .inl ⟨hplace, Option.some.inj hentry⟩
      · rw [Table.get?_erase] at hentry
        split at hentry
        · cases hentry
        · rename_i hother
          refine .inr ⟨hother, ?_⟩
          unfold entry?
          rw [if_neg hroot, hentry]
  refine ⟨fun hentry => ?_, fun hentry hentry' => ?_⟩
  · rcases hcases hentry with ⟨-, rfl⟩ | ⟨-, hold⟩
    · exact h.known hsource
    · exact h.known hold
  · rcases hcases hentry with ⟨rfl, rfl⟩ | ⟨hother, hold⟩
    · rcases hcases hentry' with ⟨rfl, -⟩ | ⟨hother', hold'⟩
      · rfl
      · exact absurd (h.single hsource hold') hother'
    · rcases hcases hentry' with ⟨-, rfl⟩ | ⟨-, hold'⟩
      · exact absurd (h.single hsource hold) hother
      · exact h.single hold hold'

/-! ## Changes beside a path -/

/-- **A change that leaves what a path leads to alone**, and all directories. -/
structure LeavesPath (path : String) (disk disk' : FileSystem) : Prop where
  directories : SameDirectories disk disk'
  entry {here : Place} {name : String} (h : disk.resolve path = .ok (here, .name name false)) :
    disk'.entry? (here ++ [name]) = disk.entry? (here ++ [name])
  bytes {here : Place} {name : String} {n : Nat}
    (h : disk.resolve path = .ok (here, .name name false))
    (hentry : disk.entry? (here ++ [name]) = some (.file n)) : disk'.bytes n = disk.bytes n

namespace LeavesPath

theorem refl (path : String) (disk : FileSystem) : LeavesPath path disk disk :=
  ⟨.refl disk, fun _ => rfl, fun _ _ => rfl⟩

theorem trans (h : LeavesPath path disk disk') (h' : LeavesPath path disk' disk'') :
    LeavesPath path disk disk'' := by
  refine ⟨h.directories.trans h'.directories, fun hresolve => ?_, fun hresolve hentry => ?_⟩
  · rw [h'.entry (resolve_keeps hresolve h.directories.1), h.entry hresolve]
  · rw [h'.bytes (resolve_keeps hresolve h.directories.1) (by rw [h.entry hresolve, hentry]),
      h.bytes hresolve hentry]

theorem sight?_eq (h : LeavesPath path disk disk') : disk'.sight? path = disk.sight? path := by
  cases hresolve : disk.resolve path with
  | error e =>
    cases hresolve' : disk'.resolve path with
    | error e' => simp only [sight?, lookup, hresolve, hresolve']
    | ok p =>
      rw [resolve_keeps hresolve' h.directories.2] at hresolve
      cases hresolve
  | ok p =>
    have hresolve' := resolve_keeps hresolve h.directories.1
    obtain ⟨here, ending⟩ := p
    cases ending with
    | stay | up | root => simp only [sight?, lookup, hresolve, hresolve']
    | name name slash =>
      rw [sight?_of_resolve hresolve, sight?_of_resolve hresolve']
      cases slash with
      | false =>
        rw [h.entry hresolve]
        cases hentry : disk.entry? (here ++ [name]) with
        | none => rfl
        | some entry =>
          cases entry with
          | directory | full => rfl
          | file n => rw [seen, seen, h.bytes hresolve hentry]
      | true =>
        have hsame : disk'.entry? (here ++ [name]) = some .directory ↔
            disk.entry? (here ++ [name]) = some .directory :=
          ⟨h.directories.2.directory, h.directories.1.directory⟩
        simp only [seen_behind_slash, hsame]

end LeavesPath

/-! ## The temporary file -/

/-- **A change of one file at most**: the file at a path is made, or it gets other bytes. -/
inductive Touches (file : String) (disk : FileSystem) : FileSystem → Prop
  | same : Touches file disk disk
  | made {here : Place} {name : String} (hresolve : disk.resolve file = .ok (here, .name name false))
      (hnone : disk.entry? (here ++ [name]) = none) :
      Touches file disk (disk.withFile (here ++ [name]))
  | written {n : Nat} (hlookup : disk.lookup file = .ok (.file n)) (data : Bytes) :
      Touches file disk (disk.setBytes n data)

theorem touches_openEmpty (file : String) (disk : FileSystem) :
    Touches file disk (outcome (openEmpty file) disk).2 := by
  simp only [outcome, openEmpty, openWrite, bind, EStateM.bind, get_apply]
  cases hresolve : disk.resolve file with
  | error e => exact .same
  | ok p =>
    obtain ⟨here, ending⟩ := p
    cases ending with
    | stay | up | root => exact .same
    | name name slash =>
      cases slash with
      | true => exact .same
      | false =>
        dsimp only
        cases hfind : disk.find here name with
        | error e => exact .same
        | ok found =>
          obtain ⟨hshort, hentry⟩ := find_ok hfind
          cases found with
          | none =>
            have hmade := Touches.made hresolve hentry
            have hempty : (disk.withFile (here ++ [name])).setBytes disk.fresh [] =
                disk.withFile (here ++ [name]) := by
              rw [setBytes, withFile, Table.insert_insert_self]
            rw [← hempty] at hmade
            exact hmade
          | some entry =>
            cases entry with
            | directory | full => exact .same
            | file n =>
              have hlookup : disk.lookup file = .ok (.file n) := by
                simp only [lookup, hresolve, hfind, Bool.false_and, Bool.false_eq_true, if_false]
              exact .written hlookup []

theorem touches_append {entry : Entry} (h : disk.lookup file = .ok entry) (data : Bytes) :
    Touches file disk (outcome (FileSystem.append entry data) disk).2 := by
  cases entry with
  | file n => exact .written h _
  | directory => exact .same
  | full =>
    rw [outcome, FileSystem.append]
    by_cases hnone : data = []
    · rw [if_pos hnone]
      exact .same
    · rw [if_neg hnone]
      exact .same

/-- All calls but the renaming touch the temporary file at most. -/
theorem touches_run {step : Step} (hstep : step ≠ .rename) (path : String) (disk : FileSystem) :
    Touches (Path.temporary path) disk (outcome (step.run path) disk).2 := by
  cases step with
  | create =>
    have htouches := touches_openEmpty (Path.temporary path) disk
    simp only [outcome, Step.run, bind, EStateM.bind] at htouches ⊢
    cases hrun : openEmpty (Path.temporary path) disk with
    | error e disk' =>
      rw [hrun] at htouches
      exact htouches
    | ok entry disk' =>
      rw [hrun] at htouches
      exact htouches
  | write data =>
    simp only [outcome, Step.run, openRead, bind, EStateM.bind, get_apply]
    cases hlookup : disk.lookup (Path.temporary path) with
    | error e => exact .same
    | ok entry => exact touches_append hlookup data
  | sync =>
    simp only [outcome, Step.run, openRead, bind, EStateM.bind, get_apply]
    cases disk.lookup (Path.temporary path) with
    | error e => exact .same
    | ok entry => cases entry <;> exact .same
  | rename => exact absurd rfl hstep
  | syncParent =>
    simp only [outcome, Step.run]
    cases Path.parent? path with
    | none => exact .same
    | some parent =>
      simp only [openRead, bind, EStateM.bind, get_apply]
      cases disk.lookup (if parent = "" then "." else parent) with
      | error e => exact .same
      | ok entry => cases entry <;> exact .same

theorem touches_leave (step : Step) (path : String) (written : Nat) (disk : FileSystem) :
    Touches (Path.temporary path) disk (outcome (step.leave path written) disk).2 := by
  cases step with
  | write data => exact @touches_run (.write (data.take written)) (by simp) path disk
  | create | sync | rename | syncParent => exact .same

/-- **The temporary file lies elsewhere.** -/
theorem place_ne_of_temporary {there : Place} {other : String} {slash : Bool}
    (h : disk.resolve path = .ok (here, .name name false))
    (h' : disk.resolve (Path.temporary path) = .ok (there, .name other slash)) :
    here ++ [name] ≠ there ++ [other] := by
  have hresolve := (resolve_temporary h).2 (fits_of_resolve h')
  rw [h'] at hresolve
  cases hresolve
  exact fun heq => temporaryName_ne name (append_singleton_inj heq).symm

/-- **What touches the temporary file only** leaves the path alone. -/
theorem Touches.leavesPath (h : Touches (Path.temporary path) disk disk') (hown : disk.OwnFiles) :
    LeavesPath path disk disk' ∧ disk'.OwnFiles := by
  cases h with
  | same => exact ⟨.refl path disk, hown⟩
  | @made there other hmade hnone =>
    refine ⟨⟨⟨keeps_withFile hnone, keeps_of_withFile⟩, fun hresolve => ?_,
      fun hresolve hentry => ?_⟩, hown.withFile there other⟩
    · rw [entry?_withFile, if_neg (place_ne_of_temporary hresolve hmade)]
    · have hne := Nat.ne_of_lt (hown.known hentry)
      rw [FileSystem.bytes, FileSystem.bytes, withFile, Table.get?_insert_of_ne _ _ hne]
  | @written n hlookup data =>
    obtain ⟨there, other, hthere, -, htemporary⟩ := lookup_file hlookup
    refine ⟨⟨sameDirectories_setBytes .., fun _ => rfl, fun {here name m} hresolve hentry => ?_⟩,
      ⟨hown.known, hown.single⟩⟩
    have hne : m ≠ n := by
      rintro rfl
      exact place_ne_of_temporary hresolve hthere (hown.single htemporary hentry)
    rw [FileSystem.bytes, FileSystem.bytes, get?_setBytes, if_neg hne]

/-! ## Calls in order -/

theorem runFrom_append (mishap : Option Mishap) (path : String) (n : Nat) (before after : List Step)
    (disk : FileSystem) :
    runFrom mishap path n (before ++ after) disk =
      match runFrom mishap path n before disk with
      | .error e disk' => .error e disk'
      | .ok _ disk' => runFrom mishap path (n + before.length) after disk' := by
  induction before generalizing n disk with
  | nil => rfl
  | cons step before ih =>
    rw [List.cons_append, List.length_cons, ← Nat.add_assoc, Nat.add_right_comm]
    cases mishap with
    | none =>
      rw [runFrom_none_cons, runFrom_none_cons]
      cases step.run path disk with
      | error e disk' => rfl
      | ok a disk' => exact ih (n + 1) disk'
    | some m =>
      rw [runFrom_some_cons, runFrom_some_cons]
      split
      · cases step.leave path m.written disk <;> rfl
      · cases step.run path disk with
        | error e disk' => rfl
        | ok a disk' => exact ih (n + 1) disk'

/-- **What the first of some calls can do**: it fails on its own, it fails, or the others follow. -/
theorem runFrom_cons_cases (mishap : Option Mishap) (path : String) (n : Nat) (step : Step)
    (rest : List Step) (disk : FileSystem) :
    (∃ m e, mishap = some m ∧ m.step = n ∧ runFrom mishap path n (step :: rest) disk =
        .error e (outcome (step.leave path m.written) disk).2) ∨
      (∃ e disk', step.run path disk = .error e disk' ∧
        runFrom mishap path n (step :: rest) disk = .error e disk') ∨
      ∃ disk', step.run path disk = .ok () disk' ∧
        runFrom mishap path n (step :: rest) disk = runFrom mishap path (n + 1) rest disk' := by
  cases mishap with
  | none =>
    rw [runFrom_none_cons]
    cases hrun : step.run path disk with
    | error e disk' => exact .inr (.inl ⟨e, disk', rfl, rfl⟩)
    | ok a disk' => exact .inr (.inr ⟨disk', rfl, rfl⟩)
  | some m =>
    rw [runFrom_some_cons]
    by_cases hm : m.step = n
    · left
      rw [if_pos hm]
      cases hleave : step.leave path m.written disk with
      | error e disk' => exact ⟨m, e, rfl, hm, by rw [outcome, hleave]⟩
      | ok a disk' => exact ⟨m, m.error, rfl, hm, by rw [outcome, hleave]⟩
    · rw [if_neg hm]
      cases hrun : step.run path disk with
      | error e disk' => exact .inr (.inl ⟨e, disk', rfl, rfl⟩)
      | ok a disk' => exact .inr (.inr ⟨disk', rfl, rfl⟩)

theorem runFrom_ok {steps : List Step} {a : Unit}
    (h : runFrom mishap path n steps disk = .ok a disk') :
    runFrom none path n steps disk = .ok a disk' := by
  induction steps generalizing n disk with
  | nil => exact h
  | cons step steps ih =>
    rcases runFrom_cons_cases mishap path n step steps disk with
      ⟨m, e, -, -, hfails⟩ | ⟨e, disk₁, -, hfails⟩ | ⟨disk₁, hrun, hfollow⟩
    · rw [hfails] at h
      cases h
    · rw [hfails] at h
      cases h
    · rw [hfollow] at h
      rw [runFrom_none_cons, hrun]
      exact ih h

/-- **What every call keeps**, and what a call that fails leaves keeps as well, holds wherever calls in
order stop. -/
theorem runFrom_keeps {P : FileSystem → Prop} {steps : List Step}
    (hrun : ∀ step ∈ steps, ∀ disk, P disk → P (outcome (step.run path) disk).2)
    (hleave : ∀ step ∈ steps, ∀ written disk, P disk → P (outcome (step.leave path written) disk).2)
    (h : P disk) : P (outcome (runFrom mishap path n steps) disk).2 := by
  induction steps generalizing n disk with
  | nil => exact h
  | cons step steps ih =>
    obtain ⟨hrunStep, hrunRest⟩ := List.forall_mem_cons.1 hrun
    obtain ⟨hleaveStep, hleaveRest⟩ := List.forall_mem_cons.1 hleave
    have hmade := hrunStep disk h
    rcases runFrom_cons_cases mishap path n step steps disk with
      ⟨m, e, -, -, hfails⟩ | ⟨e, disk₁, hstep, hfails⟩ | ⟨disk₁, hstep, hfollow⟩
    · rw [outcome, hfails]
      exact hleaveStep m.written disk h
    · simp only [outcome, hstep] at hmade
      rw [outcome, hfails]
      exact hmade
    · simp only [outcome, hstep] at hmade
      rw [outcome, hfollow]
      exact ih hrunRest hleaveRest hmade

/-- **Calls without a renaming** leave the path alone, wherever they stop. -/
theorem runFrom_leavesPath {steps : List Step} (hsteps : ∀ step ∈ steps, step ≠ .rename)
    (hown : disk.OwnFiles) :
    LeavesPath path disk (outcome (runFrom mishap path n steps) disk).2 := by
  have hstep {disk' disk'' : FileSystem} (htouches : Touches (Path.temporary path) disk' disk'')
      (h : LeavesPath path disk disk' ∧ disk'.OwnFiles) :
      LeavesPath path disk disk'' ∧ disk''.OwnFiles :=
    ⟨h.1.trans (htouches.leavesPath h.2).1, (htouches.leavesPath h.2).2⟩
  exact (runFrom_keeps (fun step hmem disk' => hstep (touches_run (hsteps step hmem) path disk'))
    (fun step _ written disk' => hstep (touches_leave step path written disk'))
    ⟨.refl path disk, hown⟩).1

/-! ## The renaming, and behind it -/

/-- **What a renaming does**: it fails and changes nothing, or something gets another name. -/
theorem rename_cases (old new : String) (disk : FileSystem) :
    (∃ e, rename old new disk = .error e disk) ∨
      ∃ source target entry, disk.entry? source = some entry ∧
        rename old new disk = .ok () (disk.moveName source target entry) := by
  simp only [rename, bind, EStateM.bind, get_apply]
  cases hold : disk.resolve old with
  | error e => exact .inl ⟨e, rfl⟩
  | ok source =>
    cases hnew : disk.resolve new with
    | error e => exact .inl ⟨e, rfl⟩
    | ok target =>
      obtain ⟨here, ending⟩ := source
      obtain ⟨there, ending'⟩ := target
      cases ending with
      | stay | up | root => cases ending' <;> exact .inl ⟨_, rfl⟩
      | name oldName oldSlash =>
        cases ending' with
        | stay | up | root => exact .inl ⟨_, rfl⟩
        | name newName newSlash =>
          dsimp only
          cases hfind : disk.find here oldName with
          | error e => exact .inl ⟨e, rfl⟩
          | ok found =>
            cases hfind' : disk.find there newName with
            | error e => cases found <;> exact .inl ⟨_, rfl⟩
            | ok found' =>
              cases found with
              | none => exact .inl ⟨_, rfl⟩
              | some entry =>
                dsimp only
                split
                · exact .inl ⟨_, rfl⟩
                split
                · exact .inl ⟨_, rfl⟩
                split
                · exact .inl ⟨_, rfl⟩
                · exact .inr ⟨_, _, entry, (find_ok hfind).2, rfl⟩

theorem create_ok {a : Unit} (hpath : disk.IsFilePath path here name)
    (hfits : Route.Fits (Path.temporary path)) (hcreate : Step.create.run path disk = .ok a disk') :
    disk'.entry? (here ++ [temporaryName name]) = some .full ∨
      ∃ n, disk'.entry? (here ++ [temporaryName name]) = some (.file n) ∧ disk'.bytes n = [] := by
  cases hentry : disk.entry? (here ++ [temporaryName name]) with
  | none =>
    rw [hpath.create_of_none hfits hentry] at hcreate
    cases hcreate
    exact .inr ⟨disk.fresh, by rw [entry?_withFile, if_pos rfl],
      bytes_of_get? (Table.get?_insert_self ..)⟩
  | some entry =>
    cases entry with
    | directory =>
      simp only [Step.run, openEmpty, bind, EStateM.bind, hpath.temporary.openWrite hfits,
        hentry] at hcreate
      cases hcreate
    | full =>
      simp only [Step.run, openEmpty, bind, EStateM.bind, hpath.temporary.openWrite hfits,
        hentry] at hcreate
      cases hcreate
      exact .inl hentry
    | file n =>
      rw [hpath.create_of_file hfits hentry] at hcreate
      cases hcreate
      exact .inr ⟨n, hentry, bytes_setBytes_self ..⟩

theorem write_sync_full (hpath : disk.IsFilePath path here name)
    (hfits : Route.Fits (Path.temporary path))
    (hfull : disk.entry? (here ++ [temporaryName name]) = some .full) {a b : Unit}
    (hwrite : (Step.write data).run path disk = .ok a disk')
    (hsync : Step.sync.run path disk' = .ok b disk'') : False := by
  simp only [Step.run, bind, EStateM.bind, hpath.temporary.openRead hfits hfull] at hwrite
  rw [FileSystem.append] at hwrite
  by_cases hnone : data = []
  · rw [if_pos hnone] at hwrite
    cases hwrite
    simp only [Step.run, bind, EStateM.bind, hpath.temporary.openRead hfits hfull] at hsync
    cases hsync
  · rw [if_neg hnone] at hwrite
    cases hwrite

/-- **Behind the renaming** the path shows the new bytes, and nothing is in the way of the sync of the
directory. -/
theorem renamed_of_ok {disk₃ disk₄ : FileSystem} {a b : Unit}
    (hwritten : runFrom none path 0 [.create, .write data, .sync] disk = .ok a disk₃)
    (hrename : Step.rename.run path disk₃ = .ok b disk₄) :
    disk₄.readAll path = .ok data ∧ Step.syncParent.run path disk₄ = .ok () disk₄ := by
  simp only [runFrom_none_cons] at hwritten
  split at hwritten
  · cases hwritten
  rename_i disk₁ hcreate
  split at hwritten
  · cases hwritten
  rename_i disk₂ hwrite
  split at hwritten
  · cases hwritten
  rename_i hsync
  cases hwritten
  have hsame₁ := sameDirectories_of_run data (by simp) hcreate
  have hsame₂ := hsame₁.trans (sameDirectories_of_run data (by simp) hwrite)
  have hsame₃ := hsame₂.trans (sameDirectories_of_run data (by simp) hsync)
  obtain ⟨here, name, hresolve, htarget⟩ := rename_ok hrename
  have hresolve₀ := resolve_keeps hresolve hsame₃.2
  have hfits := fits_of_resolve hresolve₀
  obtain ⟨hpath, hfits', -⟩ := isFilePath_of_create hresolve₀ hcreate
  have hpath₁ := hpath.keeps hsame₁.1
  rcases create_ok hpath hfits' hcreate with hfull | ⟨n, hentry, hempty⟩
  · -- The device that is always full would have failed the write or the sync.
    exact (write_sync_full hpath₁ hfits' hfull hwrite hsync).elim
  · rw [hpath₁.write_run hfits' hentry, hempty, List.nil_append] at hwrite
    cases hwrite
    have hpath₂ := hpath.keeps hsame₂.1
    rw [hpath₂.sync_run hfits' hentry] at hsync
    cases hsync
    rw [hpath₂.rename_run hfits hfits' hentry htarget] at hrename
    cases hrename
    have hsource : FileSystem.entry? (disk₁.setBytes n data) (here ++ [temporaryName name]) ≠
        some .directory := fun hdir => by cases hentry.symm.trans hdir
    have hpath₄ := hpath₂.keeps (keeps_moveName hsource htarget (.file n))
    refine ⟨?_, hpath₄.syncParent_run hfits⟩
    have hmoved := entry?_moveName (disk₁.setBytes n data) here (temporaryName name) name (.file n)
      (here ++ [name])
    rw [if_pos rfl] at hmoved
    rw [readAll, hpath₄.names.lookup hfits, hmoved]
    exact congrArg Except.ok (bytes_setBytes_self ..)

/-! ## Replacing -/

theorem ownFiles_run (step : Step) (path : String) (hown : disk.OwnFiles) :
    (outcome (step.run path) disk).2.OwnFiles := by
  by_cases hstep : step = .rename
  · subst hstep
    rw [outcome, Step.run]
    rcases rename_cases (Path.temporary path) path disk with
      ⟨e, hrun⟩ | ⟨source, target, entry, hsource, hrun⟩
    · rw [hrun]
      exact hown
    · rw [hrun]
      exact hown.moveName hsource
  · exact ((touches_run hstep path disk).leavesPath hown).2

/-- **A replacement gives no file another name**, wherever it stops. -/
theorem ownFiles_replaceWith (mishap : Option Mishap) (path : String) (data : Bytes)
    (hown : disk.OwnFiles) : (outcome (replaceWith mishap path data) disk).2.OwnFiles :=
  runFrom_keeps (fun step _ _ h => ownFiles_run step path h)
    (fun step _ written disk' h => ((touches_leave step path written disk').leavesPath h).2) hown

/-- **A replacement that fails** leaves what the path leads to alone, unless it is the opening or the
sync of the directory behind the renaming that fails: then the path shows the new bytes. -/
theorem replaceWith_error {e : OsError} (hown : disk.OwnFiles)
    (hrun : replaceWith mishap path data disk = .error e disk') :
    disk'.sight? path = disk.sight? path ∨
      ∃ m, mishap = some m ∧ m.step = 4 ∧ disk'.sight? path = some (.file data) := by
  have hsplit : steps data = [.create, .write data, .sync] ++ [.rename, .syncParent] := rfl
  have hbefore : LeavesPath path disk
      (outcome (runFrom mishap path 0 [.create, .write data, .sync]) disk).2 :=
    runFrom_leavesPath (by simp) hown
  rw [replaceWith, hsplit, runFrom_append] at hrun
  rw [outcome] at hbefore
  cases hfront : runFrom mishap path 0 [.create, .write data, .sync] disk with
  | error e' disk₃ =>
    rw [hfront] at hrun hbefore
    cases hrun
    exact .inl hbefore.sight?_eq
  | ok a disk₃ =>
    rw [hfront] at hrun hbefore
    have hwritten := runFrom_ok hfront
    rcases runFrom_cons_cases mishap path 3 .rename [.syncParent] disk₃ with
      ⟨m, e', -, -, hfails⟩ | ⟨e', disk₄, hrename, hfails⟩ | ⟨disk₄, hrename, hfollow⟩
    · cases hrun.symm.trans hfails
      exact .inl hbefore.sight?_eq
    · cases hrun.symm.trans hfails
      rcases rename_cases (Path.temporary path) path disk₃ with ⟨e₄, hsame⟩ | ⟨_, _, _, -, hmoved⟩
      · cases hrename.symm.trans hsame
        exact .inl hbefore.sight?_eq
      · cases hrename.symm.trans hmoved
    · obtain ⟨hread, hparent⟩ := renamed_of_ok hwritten hrename
      rcases runFrom_cons_cases mishap path 4 .syncParent [] disk₄ with
        ⟨m, e', hmishap, hm, hfails⟩ | ⟨e', disk₅, hfailed, -⟩ | ⟨disk₅, hmade, hfollow'⟩
      · cases (hrun.symm.trans hfollow).trans hfails
        exact .inr ⟨m, hmishap, hm, readAll_eq_ok_iff.1 hread⟩
      · rw [hparent] at hfailed
        cases hfailed
      · cases (hrun.symm.trans hfollow).trans hfollow'

end Replica.FileSystem
