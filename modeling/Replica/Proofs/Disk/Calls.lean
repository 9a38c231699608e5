/-
What each call does to a name in a directory.

`withFile`, `dropName` and `replaced` say what becomes of the file system when a
call succeeds. `FileSystem.Tidy` is what the calls keep to in a directory: its files
have numbers of their own. `FileSystem.Alters` says which names of the directory a
change may touch; the files under all others stay as they are.
-/
import Replica.Proofs.Actions
import Replica.Proofs.Disk.FileSystem

namespace Replica.FileSystem

variable {disk disk' disk'' : FileSystem} {path : String} {here : Place} {name other : String}
  {n : Nat} {data : Bytes}

theorem entry?_below (disk : FileSystem) (here : Place) (name : String) :
    disk.entry? (here ++ [name]) = disk.names.get? (here ++ [name]) := by
  rw [FileSystem.entry?, if_neg (by simp)]

theorem find_of_short (disk : FileSystem) (here : Place) (h : name.utf8ByteSize ≤ Route.nameLimit) :
    disk.find here name = .ok (disk.entry? (here ++ [name])) := by
  rw [find, if_neg (Nat.not_lt.2 h)]

/-! ## Looking -/

theorem Names.lookup (h : disk.Names path here name) (hfits : Route.Fits path) :
    disk.lookup path =
      match disk.entry? (here ++ [name]) with
      | none => .error .notFound
      | some entry => .ok entry := by
  rw [FileSystem.lookup, h.resolve hfits]
  dsimp only
  rw [find_of_short disk here h.short]
  cases disk.entry? (here ++ [name]) <;> rfl

theorem lookup_of_not_fits (disk : FileSystem) (h : ¬ Route.Fits path) :
    ∃ e, disk.lookup path = .error e := by
  obtain ⟨e, he⟩ := resolve_of_not_fits h
  exact ⟨e, by rw [lookup, he]⟩

theorem Names.exists_iff (h : disk.Names path here name) :
    disk.exists path = true ↔ Route.Fits path ∧ disk.entry? (here ++ [name]) ≠ none := by
  unfold FileSystem.exists
  by_cases hfits : Route.Fits path
  · rw [h.lookup hfits]
    cases disk.entry? (here ++ [name]) <;> simp [hfits, Except.isOk, Except.toBool]
  · obtain ⟨e, he⟩ := disk.lookup_of_not_fits hfits
    rw [he]
    simp [hfits, Except.isOk, Except.toBool]

theorem Names.openRead (h : disk.Names path here name) (hfits : Route.Fits path) {entry : Entry}
    (hentry : disk.entry? (here ++ [name]) = some entry) :
    FileSystem.openRead path disk = .ok entry disk := by
  simp only [FileSystem.openRead, bind, EStateM.bind, get_apply,
    h.lookup hfits, hentry]
  rfl

/-! ## Making and removing -/

/-- The file system with a new empty file at a place. -/
def withFile (disk : FileSystem) (place : Place) : FileSystem :=
  { disk with
    names := disk.names.insert place (.file disk.fresh)
    contents := disk.contents.insert disk.fresh []
    fresh := disk.fresh + 1 }

/-- The file system without a name. -/
def dropName (disk : FileSystem) (place : Place) : FileSystem :=
  { disk with names := disk.names.erase place }

theorem openWrite_of_not_fits (h : ¬ Route.Fits path) :
    ∃ e, ∀ disk, openWrite path disk = .error e disk := by
  obtain ⟨e, he⟩ := resolve_of_not_fits h
  refine ⟨e, fun disk => ?_⟩
  simp only [openWrite, bind, EStateM.bind, get_apply, he]
  rfl

theorem Names.openWrite (h : disk.Names path here name) (hfits : Route.Fits path) :
    FileSystem.openWrite path disk =
      match disk.entry? (here ++ [name]) with
      | some .directory => .error .isDirectory disk
      | some entry => .ok entry disk
      | none => .ok (.file disk.fresh) (disk.withFile (here ++ [name])) := by
  simp only [FileSystem.openWrite, bind, EStateM.bind, get_apply,
    h.resolve hfits, find_of_short disk here h.short]
  cases disk.entry? (here ++ [name]) with
  | none => rfl
  | some entry => cases entry <;> rfl

theorem Names.remove (h : disk.Names path here name) (hfits : Route.Fits path) :
    FileSystem.remove path disk =
      match disk.entry? (here ++ [name]) with
      | none => .error .notFound disk
      | some .directory => .error .isDirectory disk
      | some _ => .ok () (disk.dropName (here ++ [name])) := by
  simp only [FileSystem.remove, bind, EStateM.bind, get_apply,
    h.resolve hfits, find_of_short disk here h.short]
  cases disk.entry? (here ++ [name]) with
  | none => rfl
  | some entry => cases entry <;> rfl

theorem makeDirectories_of_isDirectory (h : disk.isDirectory path = true) (hne : path ≠ "") :
    makeDirectories path disk = .ok () disk := by
  have hmake : ∃ e, makeDirectory path disk = .error e disk := by
    unfold isDirectory lookup at h
    simp only [makeDirectory, bind, EStateM.bind, get_apply]
    cases hresolve : disk.resolve path with
    | error e =>
      rw [hresolve] at h
      cases h
    | ok p =>
      obtain ⟨there, ending⟩ := p
      rw [hresolve] at h
      cases ending with
      | stay | up | root => exact ⟨.alreadyExists, rfl⟩
      | name m slash =>
        dsimp only at h ⊢
        cases hfind : disk.find there m with
        | error e =>
          rw [hfind] at h
          cases h
        | ok entry? =>
          rw [hfind] at h
          cases entry? with
          | none => cases h
          | some entry => exact ⟨.alreadyExists, rfl⟩
  obtain ⟨e, hmake⟩ := hmake
  have hensure : ensureDirectory path disk = .ok () disk := by
    simp only [ensureDirectory, hmake, h, if_true]
  rw [makeDirectories, Path.ancestors, Path.ancestorsFrom, makeDirectoriesFrom]
  simp only [hne, if_false, hensure]

theorem makeDirectories_of_not_fits (disk : FileSystem) (h : ¬ Route.Fits path) (hne : path ≠ "") :
    ∃ e, makeDirectories path disk = .error e disk := by
  obtain ⟨e, he, hfound⟩ := Route.ofPath_of_not_fits_of_ne h hne
  have hresolve : disk.resolve path = .error e := by rw [resolve, he]
  have hmake : makeDirectory path disk = .error e disk := by
    simp only [makeDirectory, bind, EStateM.bind, get_apply, hresolve]
    rfl
  have hdir : disk.isDirectory path = false := by
    simp only [isDirectory, lookup, hresolve]
  have hensure : ensureDirectory path disk = .error e disk := by
    simp only [ensureDirectory, hmake, hdir, Bool.false_eq_true, if_false]
  refine ⟨e, ?_⟩
  rw [makeDirectories, Path.ancestors, Path.ancestorsFrom, makeDirectoriesFrom]
  simp only [hne, if_false, hensure]
  split
  · rename_i hsame
    cases hsame
    exact absurd rfl hfound
  · rfl

/-! ## What is where afterwards -/

theorem entry?_withFile (disk : FileSystem) (here : Place) (name : String) (place : Place) :
    FileSystem.entry? (disk.withFile (here ++ [name])) place =
      if place = here ++ [name] then some (.file disk.fresh) else disk.entry? place := by
  unfold entry? withFile
  by_cases hroot : place = []
  · subst hroot
    simp
  · simp only [hroot, if_false, Table.get?_insert]

theorem entry?_dropName (disk : FileSystem) (here : Place) (name : String) (place : Place) :
    FileSystem.entry? (disk.dropName (here ++ [name])) place =
      if place = here ++ [name] then none else disk.entry? place := by
  unfold entry? dropName
  by_cases hroot : place = []
  · subst hroot
    simp
  · simp only [hroot, if_false, Table.get?_erase]

theorem get?_setBytes (disk : FileSystem) (n m : Nat) (data : Bytes) :
    (disk.setBytes n data).contents.get? m = if m = n then some data else disk.contents.get? m :=
  Table.get?_insert ..

theorem bytes_of_get? {image : Bytes} (h : disk.contents.get? n = some image) :
    disk.bytes n = image := by
  rw [bytes, h]
  rfl

@[simp] theorem bytes_setBytes_self (disk : FileSystem) (n : Nat) (data : Bytes) :
    (disk.setBytes n data).bytes n = data := by
  rw [bytes, get?_setBytes, if_pos rfl]
  rfl

/-! ## Directories that are kept in order -/

/-- **A directory in order**: it has no link to the full device, and every file in it has a number of
its own, which is in use. -/
structure Tidy (disk : FileSystem) (here : Place) : Prop where
  plain {name : String} : disk.entry? (here ++ [name]) ≠ some .full
  known {name : String} {n : Nat} (h : disk.entry? (here ++ [name]) = some (.file n)) :
    n < disk.fresh ∧ disk.contents.get? n ≠ none
  single {name other : String} {n : Nat} (h : disk.entry? (here ++ [name]) = some (.file n))
    (h' : disk.entry? (here ++ [other]) = some (.file n)) : other = name

theorem tidy_of_empty (h : ∀ name, disk.entry? (here ++ [name]) = none) : disk.Tidy here :=
  ⟨by simp [h], by simp [h], by simp [h]⟩

theorem tidy_nothing (here : Place) : Tidy {} here :=
  tidy_of_empty fun name => by rw [entry?_below]; rfl

/-- **A change that touches these names only** of a directory in order. -/
structure Alters (here : Place) (touched : List String) (disk disk' : FileSystem) : Prop where
  keeps : Keeps disk disk'
  tidy : disk'.Tidy here
  grows : disk.fresh ≤ disk'.fresh
  entry {name : String} (h : name ∉ touched) :
    disk'.entry? (here ++ [name]) = disk.entry? (here ++ [name])
  contents {name : String} {n : Nat} (h : name ∉ touched)
    (hentry : disk.entry? (here ++ [name]) = some (.file n)) :
    disk'.contents.get? n = disk.contents.get? n

variable {touched touched' : List String}

theorem Alters.refl (h : disk.Tidy here) (touched : List String) : Alters here touched disk disk :=
  ⟨.refl disk, h, Nat.le_refl _, fun _ => rfl, fun _ _ => rfl⟩

theorem Alters.trans (h : Alters here touched disk disk') (h' : Alters here touched disk' disk'') :
    Alters here touched disk disk'' := by
  refine ⟨h.keeps.trans h'.keeps, h'.tidy, Nat.le_trans h.grows h'.grows, ?_, ?_⟩
  · intro name hname
    rw [h'.entry hname, h.entry hname]
  · intro name n hname hentry
    rw [h'.contents hname (by rw [h.entry hname, hentry]), h.contents hname hentry]

theorem Alters.mono (h : Alters here touched disk disk') (hsub : ∀ name ∈ touched, name ∈ touched') :
    Alters here touched' disk disk' :=
  ⟨h.keeps, h.tidy, h.grows, fun hname => h.entry fun hmem => hname (hsub _ hmem),
    fun hname => h.contents fun hmem => hname (hsub _ hmem)⟩

theorem Alters.bytes (h : Alters here touched disk disk') (hname : name ∉ touched)
    (hentry : disk.entry? (here ++ [name]) = some (.file n)) : disk'.bytes n = disk.bytes n := by
  rw [FileSystem.bytes, FileSystem.bytes, h.contents hname hentry]

theorem append_singleton_inj {name other : String} (h : here ++ [name] = here ++ [other]) :
    name = other := by
  simpa using h

theorem alters_withFile (h : disk.Tidy here) (hnone : disk.entry? (here ++ [name]) = none) :
    Alters here [name] disk (disk.withFile (here ++ [name])) := by
  -- A file of the directory is the new one, or an old one in another place.
  have hfile {m : String} {k : Nat}
      (hentry : FileSystem.entry? (disk.withFile (here ++ [name])) (here ++ [m]) = some (.file k)) :
      (m = name ∧ k = disk.fresh) ∨ (m ≠ name ∧ disk.entry? (here ++ [m]) = some (.file k)) := by
    rw [entry?_withFile] at hentry
    split at hentry
    · rename_i hsame
      cases hentry
      exact .inl ⟨append_singleton_inj hsame, rfl⟩
    · rename_i hother
      exact .inr ⟨fun heq => hother (by rw [heq]), hentry⟩
  have hcontents (k : Nat) (hk : k < disk.fresh) :
      (disk.withFile (here ++ [name])).contents.get? k = disk.contents.get? k :=
    Table.get?_insert_of_ne _ _ (Nat.ne_of_lt hk)
  refine ⟨⟨?_, rfl⟩, ⟨?_, ?_, ?_⟩, Nat.le_succ _, ?_, ?_⟩
  · intro place hdir
    rw [entry?_withFile, if_neg, hdir]
    rintro rfl
    rw [hnone] at hdir
    cases hdir
  · intro m hfull
    rw [entry?_withFile] at hfull
    split at hfull
    · cases hfull
    · exact h.plain hfull
  · intro m k hentry
    rcases hfile hentry with ⟨-, rfl⟩ | ⟨-, hentry⟩
    · exact ⟨Nat.lt_succ_self _, by simp [withFile]⟩
    · obtain ⟨hlt, hknown⟩ := h.known hentry
      exact ⟨Nat.lt_succ_of_lt hlt, by rwa [hcontents k hlt]⟩
  · intro m m' k hentry hentry'
    rcases hfile hentry with ⟨rfl, rfl⟩ | ⟨-, hentry⟩
    · rcases hfile hentry' with ⟨rfl, -⟩ | ⟨-, hentry'⟩
      · rfl
      · exact absurd (h.known hentry').1 (Nat.lt_irrefl _)
    · rcases hfile hentry' with ⟨-, rfl⟩ | ⟨-, hentry'⟩
      · exact absurd (h.known hentry).1 (Nat.lt_irrefl _)
      · exact h.single hentry hentry'
  · intro m hm
    rw [entry?_withFile, if_neg]
    exact fun heq => hm (by rw [append_singleton_inj heq]; simp)
  · intro m k _ hentry
    exact hcontents k (h.known hentry).1

theorem entry?_of_dropName {place : Place} {entry : Entry}
    (h : FileSystem.entry? (disk.dropName (here ++ [name])) place = some entry) :
    disk.entry? place = some entry := by
  rw [entry?_dropName] at h
  split at h
  · cases h
  · exact h

theorem keeps_dropName (hentry : disk.entry? (here ++ [name]) ≠ some .directory) :
    Keeps disk (disk.dropName (here ++ [name])) := by
  refine ⟨fun {place} hdir => ?_, rfl⟩
  rw [entry?_dropName, if_neg, hdir]
  rintro rfl
  exact hentry hdir

theorem tidy_dropName {other : Place} (h : disk.Tidy other) :
    Tidy (disk.dropName (here ++ [name])) other :=
  ⟨fun hfull => h.plain (entry?_of_dropName hfull), fun hfile => h.known (entry?_of_dropName hfile),
    fun hfile hfile' => h.single (entry?_of_dropName hfile) (entry?_of_dropName hfile')⟩

theorem alters_dropName (h : disk.Tidy here) (hentry : disk.entry? (here ++ [name]) ≠ some .directory) :
    Alters here [name] disk (disk.dropName (here ++ [name])) := by
  refine ⟨keeps_dropName hentry, tidy_dropName h, Nat.le_refl _, ?_, fun _ _ => rfl⟩
  intro m hm
  rw [entry?_dropName, if_neg]
  exact fun heq => hm (by rw [append_singleton_inj heq]; simp)

theorem alters_of_names (h : disk.Tidy here) (hfile : disk.entry? (here ++ [name]) = some (.file n))
    (hnames : disk'.names = disk.names) (hfresh : disk'.fresh = disk.fresh)
    (hworking : disk'.working = disk.working) (hn : disk'.contents.get? n ≠ none)
    (hothers : ∀ k, k ≠ n → disk'.contents.get? k = disk.contents.get? k) :
    Alters here [name] disk disk' := by
  have hentry (place : Place) : disk'.entry? place = disk.entry? place := by
    rw [FileSystem.entry?, entry?, hnames]
  refine ⟨⟨fun hdir => by rwa [hentry], hworking⟩, ⟨?_, ?_, ?_⟩, Nat.le_of_eq hfresh.symm,
    fun _ => hentry _, ?_⟩
  · intro m hfull
    rw [hentry] at hfull
    exact h.plain hfull
  · intro m k hm
    rw [hentry] at hm
    obtain ⟨hlt, hknown⟩ := h.known hm
    refine ⟨by rwa [hfresh], ?_⟩
    by_cases hk : k = n
    · rwa [hk]
    · rwa [hothers k hk]
  · intro m m' k hm hm'
    rw [hentry] at hm hm'
    exact h.single hm hm'
  · intro m k hm hentry'
    refine hothers k fun hk => hm ?_
    subst hk
    rw [h.single hfile hentry']
    simp

theorem alters_setBytes (h : disk.Tidy here) (hfile : disk.entry? (here ++ [name]) = some (.file n))
    (data : Bytes) : Alters here [name] disk (disk.setBytes n data) :=
  alters_of_names h hfile rfl rfl rfl (by simp [get?_setBytes]) fun k hk => by
    rw [get?_setBytes, if_neg hk]

theorem alters_locked (h : disk.Tidy here) (locked : List Entry) (touched : List String) :
    Alters here touched disk { disk with locked } :=
  ⟨⟨id, rfl⟩, ⟨h.plain, h.known, h.single⟩, Nat.le_refl _, fun _ => rfl, fun _ _ => rfl⟩

theorem follow_unlock (disk : FileSystem) (lock : Entry) (here : Place) (pieces : List Piece) :
    (disk.unlock lock).follow here pieces = disk.follow here pieces := by
  induction pieces generalizing here with
  | nil => rfl
  | cons piece pieces ih =>
    rw [follow, follow, show (disk.unlock lock).enter here piece = disk.enter here piece from rfl]
    cases disk.enter here piece with
    | error e => rfl
    | ok there => exact ih there

theorem lookup_unlock (disk : FileSystem) (lock : Entry) (path : String) :
    (disk.unlock lock).lookup path = disk.lookup path := by
  simp only [lookup, resolve, follow_unlock]
  rfl

/-! ## New directories -/

theorem makeDirectory_cases (path : String) (disk : FileSystem) :
    (∃ here name, disk.entry? (here ++ [name]) = none ∧ makeDirectory path disk =
        .ok () { disk with names := disk.names.insert (here ++ [name]) .directory }) ∨
      ∃ e, makeDirectory path disk = .error e disk := by
  simp only [makeDirectory, bind, EStateM.bind, get_apply]
  cases disk.resolve path with
  | error e => exact .inr ⟨e, rfl⟩
  | ok p =>
    obtain ⟨here, ending⟩ := p
    cases ending with
    | name name slash =>
      dsimp only
      by_cases hshort : name.utf8ByteSize ≤ Route.nameLimit
      · rw [find_of_short disk here hshort]
        cases hentry : disk.entry? (here ++ [name]) with
        | none => exact .inl ⟨here, name, hentry, rfl⟩
        | some entry => exact .inr ⟨_, rfl⟩
      · rw [find, if_pos (Nat.lt_of_not_le hshort)]
        exact .inr ⟨_, rfl⟩
    | stay | up | root => exact .inr ⟨_, rfl⟩

theorem tidy_insert_directory {place : Place} (h : ∀ here, disk.Tidy here) (here : Place) :
    Tidy { disk with names := disk.names.insert place .directory } here := by
  have hfile {other : Place} {entry : Entry} (hentry : entry ≠ .directory)
      (hother : entry? { disk with names := disk.names.insert place .directory } other = some entry) :
      disk.entry? other = some entry := by
    unfold entry? at hother ⊢
    split
    · rename_i hroot
      rw [if_pos hroot] at hother
      exact hother
    · rename_i hroot
      rw [if_neg hroot] at hother
      dsimp only at hother
      rw [Table.get?_insert] at hother
      split at hother
      · exact absurd (Option.some.inj hother).symm hentry
      · exact hother
  exact ⟨fun hfull => (h here).plain (hfile (by simp) hfull),
    fun hentry => (h here).known (hfile (by simp) hentry),
    fun hentry hentry' => (h here).single (hfile (by simp) hentry) (hfile (by simp) hentry')⟩

theorem tidy_ensureDirectory {a : Unit} (h : ∀ here, disk.Tidy here)
    (hrun : ensureDirectory path disk = .ok a disk') (here : Place) : disk'.Tidy here := by
  unfold ensureDirectory at hrun
  rcases makeDirectory_cases path disk with ⟨there, name, -, hmake⟩ | ⟨e, hmake⟩
  · rw [hmake] at hrun
    cases hrun
    exact tidy_insert_directory h here
  · rw [hmake] at hrun
    dsimp only at hrun
    split at hrun
    · cases hrun
      exact h here
    · cases hrun

theorem tidy_makeDirectoriesFrom {paths : List String} {a : Unit} (h : ∀ here, disk.Tidy here)
    (hrun : makeDirectoriesFrom paths disk = .ok a disk') : ∀ here, disk'.Tidy here := by
  induction paths generalizing a disk' with
  | nil => cases hrun
  | cons path above ih =>
    rw [makeDirectoriesFrom] at hrun
    dsimp only at hrun
    split at hrun
    · cases hrun
      exact h
    · split at hrun
      · split at hrun
        · cases hrun
        · rename_i habove
          exact tidy_ensureDirectory (ih habove) hrun
      · exact tidy_ensureDirectory h hrun

/-! ## Order that can be computed -/

/-- Whether every directory is in order: no name is a link to the full device, and a file has no
second name. -/
def isTidy (disk : FileSystem) : Bool :=
  disk.names.rows.all fun row => match row.2 with
    | .directory => true
    | .full => false
    | .file n => decide (n < disk.fresh) && (disk.contents.get? n).isSome &&
        disk.names.rows.all fun other => decide (other.2 ≠ .file n) || decide (other.1 = row.1)

theorem mem_rows_of_entry {here : Place} {name : String} {entry : Entry}
    (h : disk.entry? (here ++ [name]) = some entry) : (here ++ [name], entry) ∈ disk.names.rows := by
  rw [entry?_below, Table.get?, Option.map_eq_some_iff] at h
  obtain ⟨⟨place, entry'⟩, hfound, rfl⟩ := h
  have hplace := List.find?_some hfound
  simp only [decide_eq_true_eq] at hplace
  rw [← hplace]
  exact List.mem_of_find?_eq_some hfound

theorem tidy_of_isTidy (h : disk.isTidy = true) (here : Place) : disk.Tidy here := by
  rw [isTidy, List.all_eq_true] at h
  have hfile {name : String} {n : Nat} (hrow : disk.entry? (here ++ [name]) = some (.file n)) :
      n < disk.fresh ∧ disk.contents.get? n ≠ none ∧
        ∀ other ∈ disk.names.rows, other.2 = .file n → other.1 = here ++ [name] := by
    have hall := h _ (mem_rows_of_entry hrow)
    simp only [Bool.and_eq_true, decide_eq_true_eq, Option.isSome_iff_ne_none, List.all_eq_true,
      Bool.or_eq_true] at hall
    obtain ⟨⟨hlt, hknown⟩, hsingle⟩ := hall
    exact ⟨hlt, hknown, fun other hmem hsame =>
      (hsingle other hmem).resolve_left fun hdiffer => hdiffer hsame⟩
  refine ⟨fun hfull => ?_, fun hrow => ⟨(hfile hrow).1, (hfile hrow).2.1⟩, fun hrow hrow' => ?_⟩
  · cases h _ (mem_rows_of_entry hfull)
  · exact append_singleton_inj ((hfile hrow).2.2 _ (mem_rows_of_entry hrow') rfl)

end Replica.FileSystem
