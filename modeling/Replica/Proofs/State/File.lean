/-
State stores in their files.

`StateStore.InFile` says that the state file of a directory holds the snapshot in
memory and that no temporary file is in the way. Opening the file establishes it and
a fold keeps it; a fold replaces the file or changes nothing.
-/
import Replica.Proofs.Disk.Replacement
import Replica.Proofs.State

namespace Replica.StateStore

open FileSystem

variable {disk disk' : FileSystem} {path : String} {here : Place} {name : String} {fold : Fold}
  {state state' : StateStore} {snapshot : Snapshot}

/-! ## State stores that are open on their files -/

/-- The state file of a directory holds a snapshot. -/
def FileHolds (disk : FileSystem) (here : Place) (name : String) (snapshot : Snapshot) : Prop :=
  ∃ n image, disk.entry? (here ++ [name]) = some (.file n) ∧
    disk.contents.get? n = some image ∧ Snapshot.decode image = .ok snapshot

/-- The state file of a directory says how far the fold has come; one that is not there says it has
not begun. -/
def FileSays (disk : FileSystem) (here : Place) (name : String) (fold : Fold)
    (snapshot : Snapshot) : Prop :=
  (disk.entry? (here ++ [name]) = none ∧ snapshot = ⟨fold.initial, 0⟩) ∨
    FileHolds disk here name snapshot

/-- **A state store that is open on the file under its name**. -/
structure InFile (state : StateStore) (disk : FileSystem) (path : String) (here : Place)
    (name : String) : Prop where
  pathEq : state.path = path
  isOpen : state.isClosed = false
  holds : FileHolds disk here name state.snapshot
  temporary (h : Route.Fits (Path.temporary path)) :
    disk.entry? (here ++ [temporaryName name]) = none

theorem FileHolds.alters {touched : List String} (h : FileHolds disk here name snapshot)
    (halters : Alters here touched disk disk') (hname : name ∉ touched) :
    FileHolds disk' here name snapshot := by
  obtain ⟨n, image, hentry, hbytes, hdecode⟩ := h
  exact ⟨n, image, by rw [halters.entry hname, hentry],
    by rw [halters.contents hname hentry, hbytes], hdecode⟩

theorem FileSays.alters {touched : List String} (h : FileSays disk here name fold snapshot)
    (halters : Alters here touched disk disk') (hname : name ∉ touched) :
    FileSays disk' here name fold snapshot := by
  rcases h with ⟨hnone, hinitial⟩ | hholds
  · exact .inl ⟨by rw [halters.entry hname, hnone], hinitial⟩
  · exact .inr (hholds.alters halters hname)

theorem InFile.alters {touched : List String} (h : state.InFile disk path here name)
    (halters : Alters here touched disk disk') (hname : name ∉ touched)
    (htemporary : temporaryName name ∉ touched) : state.InFile disk' path here name :=
  ⟨h.pathEq, h.isOpen, h.holds.alters halters hname,
    fun hfits => by rw [halters.entry htemporary, h.temporary hfits]⟩

theorem FileHolds.not_directory (h : FileHolds disk here name snapshot) :
    disk.entry? (here ++ [name]) ≠ some .directory := by
  obtain ⟨n, -, hentry, -⟩ := h
  simp [hentry]

theorem FileSays.not_directory (h : FileSays disk here name fold snapshot) :
    disk.entry? (here ++ [name]) ≠ some .directory := by
  rcases h with ⟨hnew, -⟩ | hholds
  · simp [hnew]
  · exact hholds.not_directory

theorem fileHolds_replaced (disk : FileSystem) (here : Place) (name : String) (snapshot : Snapshot) :
    FileHolds (disk.replaced here name snapshot.encode) here name snapshot := by
  obtain ⟨hfile, -, hbytes⟩ := entry?_replaced disk here name snapshot.encode
  exact ⟨disk.fresh, _, hfile, hbytes, Snapshot.decode_encode snapshot⟩

/-! ## Folding -/

theorem apply_of_not_fits (hfits : ¬ Route.Fits (Path.temporary path)) (message : Message) :
    ∃ e, ∀ (state : StateStore) (disk : FileSystem), state.path = path → state.isClosed = false →
      apply message (state, disk) = .error (.ofStorageOs e) (state, disk) := by
  obtain ⟨e, he⟩ := replaceWith_of_not_fits hfits
  refine ⟨e, fun state disk hpath hopen => ?_⟩
  rw [apply_eq, hopen, hpath, he]
  rfl

/-- **A fold in a file** replaces the file, or nothing happens because the path of the temporary file
is too long. -/
theorem InFile.apply_cases (h : state.InFile disk path here name)
    (hpath : disk.IsFilePath path here name) (htidy : disk.Tidy here) (hfits : Route.Fits path)
    (message : Message) :
    (Route.Fits (Path.temporary path) ∧ apply message (state, disk) =
        .ok (state.next message).digest ({ state with snapshot := state.next message },
          disk.replaced here name (state.next message).encode)) ∨
      ¬ Route.Fits (Path.temporary path) ∧
        ∃ e, apply message (state, disk) = .error (.ofStorageOs e) (state, disk) := by
  by_cases hfits' : Route.Fits (Path.temporary path)
  · rw [apply_eq, h.isOpen, h.pathEq,
      hpath.replaceWith_eq htidy hfits hfits' (h.temporary hfits') h.holds.not_directory]
    exact .inl ⟨hfits', rfl⟩
  · obtain ⟨e, he⟩ := apply_of_not_fits hfits' message
    exact .inr ⟨hfits', e, he state disk h.pathEq h.isOpen⟩

theorem InFile.replaced (h : state.InFile disk path here name) (message : Message) :
    InFile { state with snapshot := state.next message }
      (disk.replaced here name (state.next message).encode) path here name :=
  ⟨h.pathEq, h.isOpen, fileHolds_replaced .., fun _ => (entry?_replaced ..).2.1⟩

/-! ## Opening -/

theorem openFileWith_eq (mishap : Option Replacement.Mishap) (path : String) (fold : Fold)
    (disk : FileSystem) :
    openFileWith mishap path fold disk =
      match removeStale path disk with
      | .error e disk' => .error (.ofStorageOs e) disk'
      | .ok _ disk₁ =>
        if disk₁.exists path then
          match readSnapshot disk₁ path with
          | .error e => .error e disk₁
          | .ok snapshot => .ok ⟨path, fold, snapshot, false⟩ disk₁
        else
          match createWith mishap path fold disk₁ with
          | .error e disk' => .error e disk'
          | .ok snapshot disk' => .ok ⟨path, fold, snapshot, false⟩ disk' := by
  simp only [openFileWith, bind, EStateM.bind, EStateM.adaptExcept]
  cases removeStale path disk with
  | error e disk' => rfl
  | ok removed disk₁ =>
    simp only [get_apply]
    cases disk₁.exists path with
    | true =>
      simp only [if_true, EStateM.bind, observe]
      cases readSnapshot disk₁ path <;> rfl
    | false =>
      simp only [Bool.false_eq_true, if_false, EStateM.bind]
      cases createWith mishap path fold disk₁ <;> rfl

theorem createWith_eq (mishap : Option Replacement.Mishap) (path : String) (fold : Fold)
    (disk : FileSystem) :
    createWith mishap path fold disk =
      match (Path.parent? path).elim (.ok () disk) (makeDirectories · disk) with
      | .error e disk' => .error (.ofOs e) disk'
      | .ok _ disk₁ =>
        match replaceWith mishap path (Snapshot.encode ⟨fold.initial, 0⟩) disk₁ with
        | .error e disk' => .error (.ofStorageOs e) disk'
        | .ok _ disk' => .ok ⟨fold.initial, 0⟩ disk' := by
  have hreplace (disk₁ : FileSystem) :
      (do
        (replaceWith mishap path (Snapshot.encode ⟨fold.initial, 0⟩)).adaptExcept
          StoreError.ofStorageOs
        return (⟨fold.initial, 0⟩ : Snapshot) : EStateM StoreError FileSystem Snapshot) disk₁ =
      match replaceWith mishap path (Snapshot.encode ⟨fold.initial, 0⟩) disk₁ with
      | .error e disk' => .error (.ofStorageOs e) disk'
      | .ok _ disk' => .ok ⟨fold.initial, 0⟩ disk' := by
    simp only [bind, EStateM.bind, EStateM.adaptExcept]
    cases replaceWith mishap path (Snapshot.encode ⟨fold.initial, 0⟩) disk₁ <;> rfl
  rw [createWith]
  cases Path.parent? path with
  | none => exact hreplace disk
  | some parent =>
    dsimp only [Option.elim]
    cases hmake : makeDirectories parent disk with
    | error e disk' => simp only [bind, EStateM.bind, EStateM.adaptExcept, hmake]
    | ok a disk₁ =>
      refine Eq.trans ?_ (hreplace disk₁)
      simp only [bind, EStateM.bind, EStateM.adaptExcept, hmake]

/-- What making a state file does: it holds the first snapshot, or nothing has happened. -/
theorem createWith_cases (h : disk.IsFilePath path here name) (htidy : disk.Tidy here)
    (hfits : Route.Fits path) (hnew : disk.entry? (here ++ [name]) = none)
    (htemporary : Route.Fits (Path.temporary path) →
      disk.entry? (here ++ [temporaryName name]) = none) (fold : Fold) :
    (Route.Fits (Path.temporary path) ∧ createWith none path fold disk =
        .ok ⟨fold.initial, 0⟩ (disk.replaced here name (Snapshot.encode ⟨fold.initial, 0⟩))) ∨
      ¬ Route.Fits (Path.temporary path) ∧ ∃ e, createWith none path fold disk = .error e disk := by
  obtain ⟨parent, hparent, hmake⟩ := h.makeDirectories hfits
  rw [createWith_eq, hparent]
  dsimp only [Option.elim]
  rw [hmake]
  dsimp only
  by_cases hfits' : Route.Fits (Path.temporary path)
  · rw [h.replaceWith_eq htidy hfits hfits' (htemporary hfits') (by simp [hnew])]
    exact .inl ⟨hfits', rfl⟩
  · obtain ⟨e, he⟩ := replaceWith_of_not_fits hfits'
    rw [he]
    exact .inr ⟨hfits', _, rfl⟩

theorem readSnapshot_eq (h : disk.Names path here name) (htidy : disk.Tidy here)
    (hfits : Route.Fits path) {snapshot : Snapshot} :
    readSnapshot disk path = .ok snapshot ↔ FileHolds disk here name snapshot := by
  rw [readSnapshot, readAll, h.lookup hfits]
  constructor
  · intro hread
    cases hentry : disk.entry? (here ++ [name]) with
    | none =>
      rw [hentry] at hread
      cases hread
    | some entry =>
      rw [hentry] at hread
      cases entry with
      | directory => cases hread
      | full => cases hread
      | file n =>
        obtain ⟨-, hknown⟩ := htidy.known hentry
        cases hget : disk.contents.get? n with
        | none => exact absurd hget hknown
        | some image =>
          refine ⟨n, image, hentry, hget, ?_⟩
          rw [← bytes_of_get? hget]
          exact hread
  · rintro ⟨n, image, hentry, hbytes, hdecode⟩
    rw [hentry]
    dsimp only
    rw [bytes_of_get? hbytes, hdecode]

theorem inFile_create (disk : FileSystem) (path : String) (here : Place) (name : String) (fold : Fold) :
    InFile ⟨path, fold, ⟨fold.initial, 0⟩, false⟩
      (disk.replaced here name (Snapshot.encode ⟨fold.initial, 0⟩)) path here name :=
  ⟨rfl, rfl, fileHolds_replaced .., fun _ => (entry?_replaced ..).2.1⟩

/-- **Opening a state file**, whatever it holds: the store is open on it, with the snapshot in it. -/
theorem openFile_ok (h : disk.IsFilePath path here name) (htidy : disk.Tidy here)
    (hfits : Route.Fits path) (hrun : openFile path fold disk = .ok state disk') :
    state.InFile disk' path here name ∧ Alters here [name, temporaryName name] disk disk' := by
  rw [openFile, openFileWith_eq] at hrun
  rcases h.removeStale htidy with ⟨removed, disk₁, hstale, halters, hgone⟩ | ⟨-, e, hstale⟩
  · have hpath := h.keeps halters.keeps
    rw [hstale] at hrun
    dsimp only at hrun
    split at hrun
    · split at hrun
      · cases hrun
      · rename_i snapshot hread
        cases hrun
        exact ⟨⟨rfl, rfl, (readSnapshot_eq hpath.names halters.tidy hfits).1 hread, hgone⟩,
          halters.mono (by simp)⟩
    · rename_i hnew
      have hnone : disk₁.entry? (here ++ [name]) = none := by
        by_cases hentry : disk₁.entry? (here ++ [name]) = none
        · exact hentry
        · exact absurd (hpath.names.exists_iff.2 ⟨hfits, hentry⟩) hnew
      rcases createWith_cases hpath halters.tidy hfits hnone hgone fold with
        ⟨hfits', hcreate⟩ | ⟨-, e, hcreate⟩
      · rw [hcreate] at hrun
        cases hrun
        exact ⟨inFile_create .., (halters.mono (by simp)).trans
          (alters_replaced halters.tidy (hgone hfits') (by simp [hnone]) _)⟩
      · rw [hcreate] at hrun
        cases hrun
  · rw [hstale] at hrun
    cases hrun

/-- **Opening a state file that was left in order** gives back the snapshot in it. Where it fails, the
file is as it was. -/
theorem openFile_of_says (h : disk.IsFilePath path here name) (htidy : disk.Tidy here)
    (hfits : Route.Fits path) (hsaid : FileSays disk here name fold snapshot)
    (hnone : disk.entry? (here ++ [temporaryName name]) = none) :
    (∃ disk', openFile path fold disk = .ok ⟨path, fold, snapshot, false⟩ disk' ∧
        disk'.entry? (here ++ [temporaryName name]) = none) ∨
      ∃ e, openFile path fold disk = .error e disk := by
  rw [openFile, openFileWith_eq, h.removeStale_of_none hnone]
  dsimp only
  rcases hsaid with ⟨hnew, rfl⟩ | hholds
  · have hmissing : ¬ disk.exists path = true := fun hexists => (h.names.exists_iff.1 hexists).2 hnew
    rw [if_neg hmissing]
    rcases createWith_cases h htidy hfits hnew (fun _ => hnone) fold with
      ⟨-, hcreate⟩ | ⟨-, e, hcreate⟩
    · rw [hcreate]
      exact .inl ⟨_, rfl, (entry?_replaced ..).2.1⟩
    · rw [hcreate]
      exact .inr ⟨e, rfl⟩
  · have hthere : disk.exists path = true := by
      obtain ⟨n, -, hentry, -⟩ := id hholds
      exact h.names.exists_iff.2 ⟨hfits, by simp [hentry]⟩
    rw [if_pos hthere, (readSnapshot_eq h.names htidy hfits).2 hholds]
    exact .inl ⟨disk, rfl, hnone⟩

end Replica.StateStore
