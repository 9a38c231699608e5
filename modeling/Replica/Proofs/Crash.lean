/-
Crashes while a file is replaced.

A crash leaves what some leading calls of a replacement have done, the last of them
perhaps in part: that is what a mishap leaves. Up to the renaming the file is as it
was and the temporary file may hold anything; from the renaming on the file is new.
Both stores that replace whole files take either in their stride: the next opening
gives what was there before or what is there after, and never anything from the
temporary file, which it removes (`opens_after_crash`).
-/
import Replica.Proofs.Queue.Maintenance
import Replica.Proofs.State.Opening

namespace Replica

open FileSystem Replacement

variable {disk disk' : FileSystem} {path : String} {here : Place} {name : String}

/-- **Replacing whole files is safe from crashes.** Take a path that ends at a name, beside which the
temporary file can be made or is left from before, and let a replacement of the file stop at any of
its calls, or behind the last. Opened again,

* a state file whose fold was interrupted gives the snapshot that was there before, which is the first
  one if there was no file, and the snapshot behind the fold if the renaming had been made;
* a state file whose making was interrupted gives the snapshot that was there before;
* a queue file whose compacting was interrupted has pending what was pending before;

and there is no temporary file any more. -/
theorem opens_after_crash {a : Unit} (htidy : disk.Tidy here)
    (hpath : disk.resolve path = .ok (here, .name name false))
    (hcreate : Step.create.run path disk = .ok a disk') (crash : Mishap) :
    (∀ (state : StateStore) (before : Snapshot) (message : Message), state.path = path →
        state.isClosed = false → StateStore.PathSays disk path state.fold before →
        let crashed := (outcome (StateStore.applyWith (some crash) message) (state, disk)).2.2
        let after := if crash.step < 4 then before else state.next message
        ∃ opened, StateStore.openFile path state.fold crashed =
            .ok ⟨path, state.fold, after, false⟩ opened ∧
          opened.exists (Path.temporary path) = false) ∧
      (∀ (fold : Fold) (before : Snapshot), StateStore.PathSays disk path fold before →
        let crashed := (outcome (StateStore.openFileWith (some crash) path fold) disk).2
        ∃ opened, StateStore.openFile path fold crashed = .ok ⟨path, fold, before, false⟩ opened ∧
          opened.exists (Path.temporary path) = false) ∧
      ∀ (options options' : StoreOptions) (pending : List Message),
        Queue.PathOpensTo disk path pending →
        let crashed := (outcome (Queue.openFileWith (some crash) path options) disk).2
        ∃ queue opened, Queue.openFile path options' crashed = .ok queue opened ∧
          queue.pending = pending ∧ opened.exists (Path.temporary path) = false := by
  obtain ⟨hfile, hfits', htemporary⟩ := isFilePath_of_create hpath hcreate
  have hfits := fits_of_resolve hpath
  have hreplaceable (htarget : disk.entry? (here ++ [name]) ≠ some .directory) :
      disk.Replaceable path here name := ⟨hfile, htidy, hfits, hfits', htarget, htemporary⟩
  refine ⟨?_, ?_, ?_⟩
  · intro state before message hstate hopen hseen
    subst hstate
    have hsaid := hseen.fileSays hfile.names hfits htidy
    exact StateStore.openFile_of_interrupted_apply (hreplaceable hsaid.not_directory) hopen hsaid crash
      message
  · intro fold before hseen
    have hsaid := hseen.fileSays hfile.names hfits htidy
    exact StateStore.openFile_of_interrupted (hreplaceable hsaid.not_directory) hsaid (some crash)
  · intro options options' pending hpending
    have hopens := hpending.fileOpensTo hfile.names hfits htidy
    obtain ⟨log, opened, hrun, hkept⟩ := Queue.openFile_of_interrupted
      (hreplaceable hopens.not_directory) hopens (some crash) options options'
    exact ⟨_, opened, hrun, rfl, hkept.replaceable.not_exists_temporary hkept.gone⟩

/-- A state file, and what a replacement left beside it that was written in part only. -/
def leftBehind : FileSystem :=
  let written := (outcome (FileSystem.replace "/state.db" (Snapshot.encode ⟨⟨7⟩, 1⟩)) {}).2
  (outcome (FileSystem.replaceWith (some ⟨1, 3, .noSpace⟩) "/state.db" (Snapshot.encode ⟨⟨8⟩, 2⟩))
    written).2

theorem replaceable_leftBehind : leftBehind.Replaceable "/state.db" [] "state.db" := by
  have hempty : FileSystem.Replaceable {} "/state.db" [] "state.db" :=
    @replaceable_nothing "state.db" (by decide) (by decide) (by decide +kernel)
  exact (hempty.outcome_replaceWith none _).outcome_replaceWith (some ⟨1, 3, .noSpace⟩) _

/-- A second interrupted fold leaves the file as the first did. -/
theorem opens_after_crash_leftBehind :
    let state : StateStore := ⟨"/state.db", .sum, ⟨⟨7⟩, 1⟩, false⟩
    let fold := StateStore.applyWith (some ⟨1, 5, .noSpace⟩) ⟨⟨9⟩, [1, 2]⟩
    ∃ opened, StateStore.openFile "/state.db" .sum (outcome fold (state, leftBehind)).2.2 =
        .ok state opened ∧ opened.exists "/state.db.tmp" = false := by
  intro state fold
  have hleft := replaceable_leftBehind
  obtain ⟨disk, hcreate, -⟩ :=
    hleft.isFilePath.create_run hleft.tidy hleft.fitsTemporary hleft.temporary
  have hshown : (StateStore.readSnapshot leftBehind "/state.db").toOption = some ⟨⟨7⟩, 1⟩ := by
    decide +kernel
  cases hread : StateStore.readSnapshot leftBehind "/state.db" with
  | error e =>
    rw [hread] at hshown
    cases hshown
  | ok snapshot =>
    rw [hread] at hshown
    cases hshown
    exact (opens_after_crash hleft.tidy (hleft.isFilePath.names.resolve hleft.fits) hcreate
      ⟨1, 5, .noSpace⟩).1 state ⟨⟨7⟩, 1⟩ ⟨⟨9⟩, [1, 2]⟩ rfl rfl (.inr hread)

end Replica
