/-
What leaves one name alone.

`FileSystem.Spares` is a change after which every directory is still there, every lock
is held or free as before, and one place has the entry it had. A call on an open file
only writes bytes, so it spares every place; a call that makes, removes or renames a file
spares the places its paths do not end at. `FileSystem.Sparing` says that of an action,
whatever comes of it, in every file system where the path of a directory leads to one
place: actions can be put together before it is known where they run.
-/
import Replica.Proofs.Disk.Resolution

namespace Replica.FileSystem

variable {disk disk' disk'' : FileSystem} {path file : String} {here place : Place} {name : String}

/-! ## Changes -/

/-- **A change that spares a place**, all directories and all locks. -/
structure Spares (place : Place) (disk disk' : FileSystem) : Prop where
  keeps : Keeps disk disk'
  locked : disk'.locked = disk.locked
  entry : disk'.entry? place = disk.entry? place

theorem Spares.refl (place : Place) (disk : FileSystem) : Spares place disk disk :=
  ⟨.refl disk, rfl, rfl⟩

theorem Spares.trans (h : Spares place disk disk') (h' : Spares place disk' disk'') :
    Spares place disk disk'' :=
  ⟨h.keeps.trans h'.keeps, h'.locked.trans h.locked, h'.entry.trans h.entry⟩

theorem spares_setBytes (place : Place) (disk : FileSystem) (n : Nat) (data : Bytes) :
    Spares place disk (disk.setBytes n data) := ⟨⟨id, rfl⟩, rfl, rfl⟩

theorem spares_withFile (hnone : disk.entry? (here ++ [name]) = none) (hne : here ++ [name] ≠ place) :
    Spares place disk (disk.withFile (here ++ [name])) :=
  ⟨keeps_withFile hnone, rfl, by rw [entry?_withFile, if_neg hne.symm]⟩

theorem spares_dropName (hentry : disk.entry? (here ++ [name]) ≠ some .directory)
    (hne : here ++ [name] ≠ place) : Spares place disk (disk.dropName (here ++ [name])) :=
  ⟨keeps_dropName hentry, rfl, by rw [entry?_dropName, if_neg hne.symm]⟩

theorem spares_moveName {source target : Place} {entry : Entry}
    (hsource : disk.entry? source ≠ some .directory) (htarget : disk.entry? target ≠ some .directory)
    (hne : source ≠ place) (hne' : target ≠ place) :
    Spares place disk (disk.moveName source target entry) :=
  ⟨keeps_moveName hsource htarget entry, rfl, entry?_moveName_of_ne hne.symm hne'.symm⟩

/-! ## Calls -/

/-- **A path that does not end at a place**, with or without slashes behind it. -/
def Aside (disk : FileSystem) (place : Place) (file : String) : Prop :=
  ∀ there name slash, disk.resolve file = .ok (there, .name name slash) → there ++ [name] ≠ place

theorem spares_openWrite (h : disk.Aside place file) :
    Spares place disk (outcome (openWrite file) disk).2 := by
  simp only [outcome, openWrite, bind, EStateM.bind, get_apply]
  cases hresolve : disk.resolve file with
  | error e => exact .refl place disk
  | ok p =>
    obtain ⟨there, ending⟩ := p
    cases ending with
    | stay | up | root => exact .refl place disk
    | name n slash =>
      cases slash with
      | true => exact .refl place disk
      | false =>
        dsimp only
        cases hfind : disk.find there n with
        | error e => exact .refl place disk
        | ok found =>
          cases found with
          | none => exact spares_withFile (find_ok hfind).2 (h there n false hresolve)
          | some entry => cases entry <;> exact .refl place disk

theorem keeps_openWrite (file : String) (disk : FileSystem) :
    Keeps disk (outcome (openWrite file) disk).2 := by
  have haside : disk.Aside [] file := fun there name slash _ => by simp
  exact (spares_openWrite haside).keeps

theorem spares_remove (h : disk.Aside place file) :
    Spares place disk (outcome (remove file) disk).2 := by
  simp only [outcome, remove, bind, EStateM.bind, get_apply]
  cases hresolve : disk.resolve file with
  | error e => exact .refl place disk
  | ok p =>
    obtain ⟨there, ending⟩ := p
    cases ending with
    | stay | up | root => exact .refl place disk
    | name n slash =>
      dsimp only
      cases hfind : disk.find there n with
      | error e => exact .refl place disk
      | ok found =>
        have hentry := (find_ok hfind).2
        have hdrop (hne : found ≠ some .directory) :
            Spares place disk (disk.dropName (there ++ [n])) :=
          spares_dropName (by rwa [hentry]) (h there n slash hresolve)
        cases found with
        | none => exact .refl place disk
        | some entry =>
          cases slash <;> cases entry <;> first | exact .refl place disk | exact hdrop (by simp)

theorem spares_rename {old new : String} (h : disk.Aside place old) (h' : disk.Aside place new) :
    Spares place disk (outcome (rename old new) disk).2 := by
  simp only [outcome, rename, bind, EStateM.bind, get_apply]
  -- Every way out but the last leaves all names as they are.
  cases hold : disk.resolve old with
  | error e => exact .refl place disk
  | ok source =>
    cases hnew : disk.resolve new with
    | error e => exact .refl place disk
    | ok target =>
      obtain ⟨there, ending⟩ := source
      obtain ⟨there', ending'⟩ := target
      cases ending with
      | stay | up | root => cases ending' <;> exact .refl place disk
      | name n slash =>
        cases ending' with
        | stay | up | root => exact .refl place disk
        | name n' slash' =>
          dsimp only
          cases hfind : disk.find there n with
          | error e => exact .refl place disk
          | ok found =>
            cases hfind' : disk.find there' n' with
            | error e => cases found <;> exact .refl place disk
            | ok found' =>
              cases found with
              | none => exact .refl place disk
              | some entry =>
                by_cases hentry : entry = .directory
                · simp only [hentry, if_true]
                  exact .refl place disk
                by_cases hslash : (slash || slash') = true
                · simp only [hentry, hslash, if_true, if_false]
                  exact .refl place disk
                by_cases htarget : found' = some .directory
                · simp only [hentry, hslash, htarget, if_true, if_false]
                  exact .refl place disk
                simp only [hentry, hslash, htarget, if_false]
                refine spares_moveName ?_ ?_ (h there n slash hold) (h' there' n' slash' hnew)
                · rw [(find_ok hfind).2]
                  simpa using hentry
                · rwa [(find_ok hfind').2]

/-! ## Actions -/

section

variable {S S' ε ε' α β : Type} {view : S → FileSystem} {view' : S' → FileSystem}

/-- **An action that spares a place**, whatever comes of it, where `path` leads to `here`. The file
system it acts on is a part of its state. -/
def Sparing (path : String) (here place : Place) (view : S → FileSystem) (act : EStateM ε S α) :
    Prop :=
  ∀ s, (view s).Leads path.toList here → Spares place (view s) (view (outcome act s).2)

theorem sparing_of_same {act : EStateM ε S α} (h : ∀ s, view (outcome act s).2 = view s) :
    Sparing path here place view act := by
  intro s _
  rw [h s]
  exact .refl place _

theorem sparing_pure (a : α) : Sparing path here place view (pure a : EStateM ε S α) :=
  sparing_of_same fun _ => rfl

theorem sparing_throw (e : ε) : Sparing path here place view (throw e : EStateM ε S α) :=
  sparing_of_same fun _ => rfl

theorem Sparing.of_outcome {act : EStateM ε S α} {act' : EStateM ε' S' β}
    (h : Sparing path here place view act) (start : S' → S) (hstart : ∀ s, view (start s) = view' s)
    (hend : ∀ s, view' (outcome act' s).2 = view (outcome act (start s)).2) :
    Sparing path here place view' act' := by
  intro s hleads
  rw [hend, ← hstart]
  exact h (start s) (by rwa [hstart])

theorem Sparing.of_part {T : Type} {act : EStateM ε (T × FileSystem) α}
    {act' : EStateM ε' (S × FileSystem) β} (h : Sparing path here place Prod.snd act)
    (hact : ∀ s disk, (outcome act' (s, disk)).2.2 = disk ∨
      ∃ t, (outcome act' (s, disk)).2.2 = (outcome act (t, disk)).2.2) :
    Sparing path here place Prod.snd act' := by
  intro (s, disk) hleads
  rcases hact s disk with hsame | ⟨t, hsame⟩
  · exact hsame.symm ▸ .refl place disk
  · exact hsame.symm ▸ h (t, disk) hleads

theorem Sparing.bind {act : EStateM ε S α} {next : α → EStateM ε S β}
    (h : Sparing path here place view act) (hnext : ∀ a, Sparing path here place view (next a)) :
    Sparing path here place view (act >>= next) := by
  intro s hleads
  have hact := h s hleads
  simp only [outcome, Bind.bind, EStateM.bind] at hact ⊢
  cases hrun : act s with
  | error e s' =>
    rw [hrun] at hact
    exact hact
  | ok a s' =>
    rw [hrun] at hact
    exact hact.trans (hnext a s' (hleads.keeps hact.keeps))

theorem sparing_get {next : S → EStateM ε S β} (h : ∀ s, Sparing path here place view (next s)) :
    Sparing path here place view (get >>= next) := .bind (sparing_of_same fun _ => rfl) h

theorem Sparing.adaptExcept {act : EStateM ε S α} (h : Sparing path here place view act)
    (wrap : ε → ε') : Sparing path here place view (act.adaptExcept wrap) :=
  h.of_outcome id (fun _ => rfl) fun s => by
    simp only [outcome, EStateM.adaptExcept, id]
    cases act s <;> rfl

theorem Sparing.lift {T : Type} {viewPart : T → FileSystem} {act : EStateM ε T α}
    (h : Sparing path here place viewPart act) (part : Part S T)
    (hget : ∀ s, viewPart (part.get s) = view s) (hput : ∀ t s, view (part.put t s) = viewPart t)
    (wrap : ε → ε') : Sparing path here place view (part.lift wrap act) :=
  h.of_outcome part.get hget fun s => by
    simp only [outcome, Part.lift, Part.run, EStateM.adaptExcept]
    cases act (part.get s) <;> exact hput _ _

end

/-! ## Files in a directory -/

/-- **A path that stays clear of a place**, as does its sibling, wherever the directory leads there;
its parent is a directory already, or is none. -/
structure Clear (path : String) (here place : Place) (file : String) : Prop where
  aside {disk : FileSystem} (h : disk.Leads path.toList here) : disk.Aside place file
  temporary {disk : FileSystem} (h : disk.Leads path.toList here) :
    disk.Aside place (Path.temporary file)
  parent {disk : FileSystem} {parent : String} (h : disk.Leads path.toList here)
    (hparent : Path.parent? file = some parent) :
    (outcome (FileSystem.makeDirectories parent) disk).2 = disk

theorem aside_join {other : String} (hpath : path ≠ "") (hname : Path.IsPlain name.toList)
    (hne : name ≠ other) (hleads : disk.Leads path.toList here) :
    disk.Aside (here ++ [other]) (Path.join path name) := by
  intro there n slash hresolve heq
  rw [resolve_join hpath hname hleads (fits_of_resolve hresolve)] at hresolve
  cases hresolve
  exact hne (append_singleton_inj heq)

/-- **A file of a directory** is beside every other name there. -/
theorem clear_join {other : String} (hpath : path ≠ "") (hname : Path.IsPlain name.toList)
    (hne : name ≠ other) (hne' : temporaryName name ≠ other) :
    Clear path here (here ++ [other]) (Path.join path name) := by
  refine ⟨aside_join hpath hname hne, fun hleads => ?_, fun {_ front} hleads hparent => ?_⟩
  · obtain ⟨parent, -, hnonempty, -, hleads', htemporary⟩ := exists_parent_join hpath hname hleads
    rw [htemporary]
    exact aside_join hnonempty (isPlain_temporaryName hname) hne' hleads'
  · obtain ⟨parent, hparent', hnonempty, -, hleads', -⟩ := exists_parent_join hpath hname hleads
    obtain rfl : front = parent := Option.some.inj (hparent.symm.trans hparent')
    rw [outcome]
    by_cases hfits : Route.Fits front
    · rw [makeDirectories_of_isDirectory ((isDirectory_iff_leads hfits).2 ⟨_, hleads'⟩) hnonempty]
    · obtain ⟨e, he⟩ := makeDirectories_of_not_fits _ hfits hnonempty
      rw [he]

/-! ## Calls on files in a directory -/

theorem sparing_openRead (file : String) : Sparing path here place id (openRead file) :=
  sparing_of_same fun disk => by
    simp only [outcome, openRead, bind, EStateM.bind, get_apply, id]
    cases disk.lookup file <;> rfl

theorem sparing_append (entry : Entry) (data : Bytes) :
    Sparing path here place id (FileSystem.append entry data) := by
  cases entry with
  | file n => exact fun disk _ => spares_setBytes place disk n _
  | full =>
    rw [FileSystem.append]
    split
    · exact sparing_pure ()
    · exact sparing_throw _
  | directory => exact sparing_throw _

theorem sparing_setLength (entry : Entry) (len : Nat) :
    Sparing path here place id (setLength entry len) := by
  cases entry with
  | file n => exact fun disk _ => spares_setBytes place disk n _
  | full | directory => exact sparing_throw _

theorem sparing_sync (entry : Entry) : Sparing path here place id (FileSystem.sync entry) :=
  sparing_of_same fun disk => by cases entry <;> rfl

theorem sparing_openEmpty (h : ∀ {disk : FileSystem}, disk.Leads path.toList here →
    disk.Aside place file) : Sparing path here place id (openEmpty file) := by
  refine .bind (fun disk hleads => spares_openWrite (h hleads)) fun entry => ?_
  cases entry with
  | file n => exact fun disk _ => spares_setBytes place disk n []
  | full | directory => exact sparing_pure _

section

open Replacement

variable (h : Clear path here place file)

include h

theorem Clear.makeDirectories {parent : String} (hparent : Path.parent? file = some parent) :
    Sparing path here place id (FileSystem.makeDirectories parent) := by
  intro disk hleads
  have hsame := h.parent hleads hparent
  exact hsame.symm ▸ .refl place disk

theorem Clear.run (step : Step) : Sparing path here place id (step.run file) := by
  cases step with
  | create => exact .bind (sparing_openEmpty h.temporary) fun _ => sparing_pure ()
  | write data => exact .bind (sparing_openRead _) fun entry => sparing_append entry data
  | sync => exact .bind (sparing_openRead _) fun entry => sparing_sync entry
  | rename => exact fun disk hleads => spares_rename (h.temporary hleads) (h.aside hleads)
  | syncParent =>
    simp only [Step.run]
    split
    · exact .bind (sparing_openRead _) fun entry => sparing_sync entry
    · exact sparing_pure ()

theorem Clear.leave (step : Step) (written : Nat) :
    Sparing path here place id (step.leave file written) := by
  cases step with
  | write data => exact h.run (.write (data.take written))
  | create | sync | rename | syncParent => exact sparing_pure ()

theorem Clear.runFrom (mishap : Option Mishap) (steps : List Step) (n : Nat) :
    Sparing path here place id (Replacement.runFrom mishap file n steps) := by
  induction steps generalizing n with
  | nil => exact sparing_pure ()
  | cons step rest ih =>
    have hrest : Sparing path here place id (do
        step.run file
        Replacement.runFrom mishap file (n + 1) rest) := .bind (h.run step) fun _ => ih (n + 1)
    cases mishap with
    | none =>
      rw [Replacement.runFrom]
      exact hrest
    | some m =>
      rw [Replacement.runFrom]
      dsimp only
      split
      · exact .bind (h.leave step m.written) fun _ => .bind (sparing_throw m.error) fun _ => hrest
      · exact hrest

/-- **A replacement** beside the place, wherever it stops. -/
theorem Clear.replaceWith (mishap : Option Mishap) (data : Bytes) :
    Sparing path here place id (FileSystem.replaceWith mishap file data) := h.runFrom mishap _ 0

theorem Clear.removeStale : Sparing path here place id (FileSystem.removeStale file) := by
  refine sparing_get fun disk => ?_
  split
  · exact .bind (fun disk hleads => spares_remove (h.temporary hleads)) fun _ => sparing_pure true
  · exact sparing_pure false

end

end Replica.FileSystem
