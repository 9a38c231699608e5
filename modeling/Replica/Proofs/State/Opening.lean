/-
Opening state files, wherever they lie and whatever stopped the writing of them.

A state file is at rest (`Settled`) if it holds a snapshot and what an interrupted
replacement left beside it is not in the way. A file at rest opens with its snapshot
(`Settled.openFile`), and whatever was opened is at rest (`settled_of_openFile`). A
file that can be replaced opens with what it says even where it is missing, and if
the making of it is stopped it still says the same (`openFileWith_cases`).
-/
import Replica.Proofs.Disk.Resolution
import Replica.Proofs.State.File

namespace Replica

open FileSystem

namespace StateStore

variable {disk disk' : FileSystem} {path : String} {here : Place} {name : String} {fold : Fold}
  {state : StateStore} {snapshot : Snapshot}

/-! ## What the file says, seen through its path -/

/-- The snapshot at a path: the one in the file, or that with which a fold starts if there is none. -/
def PathSays (disk : FileSystem) (path : String) (fold : Fold) (snapshot : Snapshot) : Prop :=
  (disk.exists path = false ∧ snapshot = ⟨fold.initial, 0⟩) ∨ readSnapshot disk path = .ok snapshot

theorem PathSays.fileSays (h : PathSays disk path fold snapshot) (hnames : disk.Names path here name)
    (hfits : Route.Fits path) (htidy : disk.Tidy here) : FileSays disk here name fold snapshot := by
  rcases h with ⟨hnew, hinitial⟩ | hread
  · exact .inl ⟨hnames.entry?_of_not_exists hfits hnew, hinitial⟩
  · exact .inr ((readSnapshot_eq hnames htidy hfits).1 hread)

/-! ## Files at rest -/

/-- **The file at a path holds a snapshot**, and whatever was left of a replacement is not in the
way of the next. -/
structure Settled (disk : FileSystem) (path : String) (here : Place) (name : String)
    (snapshot : Snapshot) : Prop where
  names : disk.Names path here name
  fits : Route.Fits path
  tidy : disk.Tidy here
  holds : FileHolds disk here name snapshot
  sibling : disk.Replaceable path here name ∨ Blocked path

theorem fileHolds_of_hasFile (h : disk.HasFile here name snapshot.encode) :
    FileHolds disk here name snapshot := by
  obtain ⟨n, hentry, hbytes⟩ := h
  exact ⟨n, _, hentry, hbytes, Snapshot.decode_encode snapshot⟩

namespace Settled

theorem read (h : Settled disk path here name snapshot) : readSnapshot disk path = .ok snapshot :=
  (readSnapshot_eq h.names h.tidy h.fits).2 h.holds

theorem undone (h : Settled disk path here name snapshot) (hundone : Undone here name disk disk') :
    Settled disk' path here name snapshot :=
  ⟨h.names.keeps hundone.alters.keeps, h.fits, hundone.alters.tidy,
    h.holds.alters hundone.alters (name_not_mem_temporary name),
    h.sibling.imp_left hundone.replaceable⟩

theorem of_done (hdisk : disk.Replaceable path here name)
    (hdone : Done here name snapshot.encode disk disk') : Settled disk' path here name snapshot :=
  ⟨hdisk.isFilePath.names.keeps hdone.alters.keeps, hdisk.fits, hdone.alters.tidy,
    fileHolds_of_hasFile hdone.file, .inl (hdone.replaceable hdisk)⟩

/-- **What a replacement does** that does not fail behind its renaming: the file holds the new
snapshot, or it shows what it showed. -/
theorem replaceWith (h : Settled disk path here name snapshot) {mishap : Option Replacement.Mishap}
    (hmishap : ∀ m, mishap = some m → m.step ≤ 3) (next : Snapshot) :
    (∃ disk', FileSystem.replaceWith mishap path next.encode disk = .ok () disk' ∧
        Settled disk' path here name next) ∨
      ∃ e disk', FileSystem.replaceWith mishap path next.encode disk = .error e disk' ∧
        Settled disk' path here name snapshot ∧ disk'.readAll path = disk.readAll path := by
  rcases h.sibling with hreplaceable | hblocked
  · rcases hreplaceable.replaceWith_cases mishap next.encode with
      ⟨disk', hrun, -, hdone⟩ | ⟨m, disk', hsome, hrun, ⟨-, hundone⟩ | ⟨hbehind, -⟩⟩
    · exact .inl ⟨disk', hrun, of_done hreplaceable hdone⟩
    · exact .inr ⟨m.error, disk', hrun, h.undone hundone, hundone.readAll h.names h.fits⟩
    · have hbefore := hmishap m hsome
      omega
  · obtain ⟨e, hrun⟩ := hblocked.replaceWith mishap next.encode disk
    exact .inr ⟨e, disk, hrun, h, rfl⟩

/-- **The file opens again** with the snapshot it holds, and it keeps its bytes. -/
theorem openFile (h : Settled disk path here name snapshot) (fold : Fold) :
    ∃ disk', StateStore.openFile path fold disk = .ok ⟨path, fold, snapshot, false⟩ disk' ∧
      Settled disk' path here name snapshot ∧ disk'.readAll path = disk.readAll path := by
  have hstale : ∃ removed disk', FileSystem.removeStale path disk = .ok removed disk' ∧
      Settled disk' path here name snapshot ∧ disk'.readAll path = disk.readAll path := by
    rcases h.sibling with hreplaceable | hblocked
    · obtain ⟨removed, disk', hrun, hundone, -⟩ := hreplaceable.removeStale
      exact ⟨removed, disk', hrun, h.undone hundone, hundone.readAll h.names h.fits⟩
    · exact ⟨false, disk, hblocked.removeStale disk, h, rfl⟩
  obtain ⟨removed, disk', hstale, hsettled, hread⟩ := hstale
  obtain ⟨n, -, hentry, -⟩ := id hsettled.holds
  have hthere : disk'.exists path = true :=
    hsettled.names.exists_iff.2 ⟨h.fits, by simp [hentry]⟩
  refine ⟨disk', ?_, hsettled, hread⟩
  rw [StateStore.openFile, openFileWith_eq, hstale]
  dsimp only
  rw [if_pos hthere, hsettled.read]

end Settled

/-! ## The first opening -/

theorem settled_of_read (htidy : ∀ here, disk.Tidy here)
    (hgone : disk.exists (Path.temporary path) = false)
    (hread : readSnapshot disk path = .ok snapshot) :
    ∃ here name, Settled disk path here name snapshot := by
  obtain ⟨n, hlookup⟩ : ∃ n, disk.lookup path = .ok (.file n) := by
    rw [readSnapshot] at hread
    split at hread
    · cases hread
    · rename_i image himage
      obtain ⟨n, hlookup, -⟩ := readAll_ok himage
      exact ⟨n, hlookup⟩
  obtain ⟨here, name, hresolve, hshort, hentry⟩ := lookup_file hlookup
  have hnames : disk.Names path here name := ⟨fun _ => hresolve, hshort⟩
  have hfits := fits_of_resolve hresolve
  refine ⟨here, name, hnames, hfits, htidy here, (readSnapshot_eq hnames (htidy here) hfits).1 hread, ?_⟩
  rcases isFilePath_or_blocked hresolve with ⟨hpath, hfits'⟩ | hblocked
  · refine .inl ⟨hpath, htidy here, hfits, hfits', by simp [hentry], fun hdirectory => ?_⟩
    rw [hpath.temporary.exists_iff.2 ⟨hfits', by simp [hdirectory]⟩] at hgone
    cases hgone
  · exact .inr hblocked

theorem settled_of_create (htidy : ∀ here, disk.Tidy here)
    (hrun : createWith none path fold disk = .ok snapshot disk') :
    snapshot = ⟨fold.initial, 0⟩ ∧ ∃ here name, Settled disk' path here name snapshot := by
  rw [createWith_eq] at hrun
  split at hrun
  · cases hrun
  rename_i a disk₁ hmade
  split at hrun
  · cases hrun
  rename_i a' disk₂ hreplace
  cases hrun
  have htidy₁ : ∀ here, disk₁.Tidy here := by
    cases hparent : Path.parent? path with
    | none =>
      rw [hparent] at hmade
      cases hmade
      exact htidy
    | some parent =>
      rw [hparent] at hmade
      exact tidy_makeDirectoriesFrom htidy hmade
  obtain ⟨here, name, hreplaceable⟩ := replaceable_of_replaceWith htidy₁ hreplace
  obtain ⟨disk₃, hrun₂, hdone⟩ := @Replaceable.replaceWith_through disk₁ path here name none
    hreplaceable (Snapshot.encode ⟨fold.initial, 0⟩) (by simp)
  rw [hreplace] at hrun₂
  cases hrun₂
  exact ⟨rfl, here, name, .of_done hreplaceable hdone⟩

/-- **A state file that was opened** is at rest and holds the snapshot in memory: what it held
before, or what a fold starts from if there was none. -/
theorem settled_of_openFile (htidy : ∀ here, disk.Tidy here)
    (hrun : openFile path fold disk = .ok state disk') :
    state.path = path ∧ state.fold = fold ∧ PathSays disk path fold state.snapshot ∧
      ∃ here name, Settled disk' path here name state.snapshot := by
  rw [openFile, openFileWith_eq] at hrun
  split at hrun
  · cases hrun
  rename_i removed disk₁ hstale
  have htidy₁ := tidy_removeStale htidy hstale
  split at hrun
  · split at hrun
    · cases hrun
    rename_i snapshot hread
    cases hrun
    refine ⟨rfl, rfl, .inr ?_, settled_of_read htidy₁ (removeStale_ok hstale).1 hread⟩
    unfold readSnapshot at hread ⊢
    split at hread
    · cases hread
    rename_i image himage
    rw [readAll_of_removeStale hstale himage]
    exact hread
  · rename_i hnew
    split at hrun
    · cases hrun
    rename_i snapshot disk₂ hcreate
    cases hrun
    obtain ⟨hinitial, hsettled⟩ := settled_of_create htidy₁ hcreate
    -- What is missing behind the removal was missing before it.
    refine ⟨rfl, rfl, .inl ⟨?_, hinitial⟩, hsettled⟩
    exact Bool.not_eq_true _ ▸ mt (exists_of_removeStale hstale) hnew

/-! ## Interruptions -/

/-- **Opening a state file that can be replaced** gives the snapshot it says, unless a mishap stops
the making of it; then it still says the same. -/
theorem openFileWith_cases (h : disk.Replaceable path here name)
    (hsaid : FileSays disk here name fold snapshot) (mishap : Option Replacement.Mishap) :
    (∃ disk', openFileWith mishap path fold disk = .ok ⟨path, fold, snapshot, false⟩ disk' ∧
        disk'.Replaceable path here name ∧ FileHolds disk' here name snapshot ∧
        disk'.entry? (here ++ [temporaryName name]) = none) ∨
      ∃ m e disk', mishap = some m ∧ openFileWith mishap path fold disk = .error e disk' ∧
        disk'.Replaceable path here name ∧ FileSays disk' here name fold snapshot := by
  obtain ⟨removed, disk₁, hstale, hundone, hgone⟩ := h.removeStale
  have h₁ := hundone.replaceable h
  rw [openFileWith_eq, hstale]
  dsimp only
  rcases hsaid.alters hundone.alters (name_not_mem_temporary name) with ⟨hnew, rfl⟩ | hholds
  · have hmissing : ¬ disk₁.exists path = true :=
      fun hexists => (h₁.isFilePath.names.exists_iff.1 hexists).2 hnew
    obtain ⟨parent, hparent, hmake⟩ := h₁.isFilePath.makeDirectories h.fits
    rw [if_neg hmissing, createWith_eq, hparent]
    dsimp only [Option.elim]
    rw [hmake]
    dsimp only
    rcases h₁.replaceWith_cases mishap (Snapshot.encode ⟨fold.initial, 0⟩) with
      ⟨disk', hreplace, -, hdone⟩ | ⟨m, disk', hmishap, hreplace, hstopped⟩
    · rw [hreplace]
      exact .inl ⟨disk', rfl, hdone.replaceable h₁, fileHolds_of_hasFile hdone.file, hdone.gone⟩
    · rw [hreplace]
      refine .inr ⟨m, _, disk', hmishap, rfl, ?_⟩
      rcases hstopped with ⟨-, hundone'⟩ | ⟨-, hdone⟩
      · exact ⟨hundone'.replaceable h₁, .inl ⟨by rw [hundone'.entry, hnew], rfl⟩⟩
      · exact ⟨hdone.replaceable h₁, .inr (fileHolds_of_hasFile hdone.file)⟩
  · obtain ⟨n, -, hentry, -⟩ := id hholds
    have hthere : disk₁.exists path = true :=
      h₁.isFilePath.names.exists_iff.2 ⟨h.fits, by simp [hentry]⟩
    rw [if_pos hthere, (readSnapshot_eq h₁.isFilePath.names h₁.tidy h.fits).2 hholds]
    exact .inl ⟨disk₁, rfl, h₁, hholds, hgone⟩

theorem openFile_of_replaceable (h : disk.Replaceable path here name)
    (hsaid : FileSays disk here name fold snapshot) :
    ∃ disk', openFile path fold disk = .ok ⟨path, fold, snapshot, false⟩ disk' ∧
      disk'.exists (Path.temporary path) = false := by
  rcases openFileWith_cases h hsaid none with ⟨disk', hrun, h', -, hgone⟩ | ⟨m, e, disk', hmishap, -⟩
  · exact ⟨disk', hrun, h'.not_exists_temporary hgone⟩
  · cases hmishap

/-- **After an interrupted opening** the next one gives the same. -/
theorem openFile_of_interrupted (h : disk.Replaceable path here name)
    (hsaid : FileSays disk here name fold snapshot) (mishap : Option Replacement.Mishap) :
    ∃ disk', openFile path fold (outcome (openFileWith mishap path fold) disk).2 =
        .ok ⟨path, fold, snapshot, false⟩ disk' ∧
      disk'.exists (Path.temporary path) = false := by
  rcases openFileWith_cases h hsaid mishap with
    ⟨disk', hrun, h', hholds, -⟩ | ⟨m, e, disk', -, hrun, h', hsaid'⟩
  · rw [outcome, hrun]
    exact openFile_of_replaceable h' (.inr hholds)
  · rw [outcome, hrun]
    exact openFile_of_replaceable h' hsaid'

/-- **After an interrupted fold** the file opens with the snapshot before it or with the one behind
it, as the renaming has not been made or has. -/
theorem openFile_of_interrupted_apply (h : disk.Replaceable state.path here name)
    (hopen : state.isClosed = false) (hsaid : FileSays disk here name fold snapshot)
    (m : Replacement.Mishap) (message : Message) :
    ∃ disk', openFile state.path fold
        (outcome (applyWith (some m) message) (state, disk)).2.2 =
          .ok ⟨state.path, fold, if m.step < 4 then snapshot else state.next message, false⟩ disk' ∧
      disk'.exists (Path.temporary state.path) = false := by
  have happly := applyWith_eq (some m) message state disk
  rw [if_neg (by simp [hopen])] at happly
  have hnext {disk₁ : FileSystem} (hdone : Done here name (state.next message).encode disk disk₁) :
      FileSays disk₁ here name fold (state.next message) :=
    .inr (fileHolds_of_hasFile hdone.file)
  rcases h.replaceWith_cases (some m) (state.next message).encode with
    ⟨disk₁, hrun, hbeyond, hdone⟩ | ⟨m', disk₁, hmishap, hrun, hstopped⟩
  · have hlate : ¬ m.step < 4 := by
      have := hbeyond m rfl
      omega
    rw [hrun] at happly
    rw [outcome, happly, if_neg hlate]
    exact openFile_of_replaceable (hdone.replaceable h) (hnext hdone)
  · cases hmishap
    rw [hrun] at happly
    rw [outcome, happly]
    rcases hstopped with ⟨hbefore, hundone⟩ | ⟨hbehind, hdone⟩
    · rw [if_pos hbefore]
      exact openFile_of_replaceable (hundone.replaceable h)
        (hsaid.alters hundone.alters (name_not_mem_temporary name))
    · rw [if_neg (by omega)]
      exact openFile_of_replaceable (hdone.replaceable h) (hnext hdone)

end StateStore

end Replica
