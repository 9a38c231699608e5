/-
What a replacement or a fold that fails leaves.

Where no file has two names, a replacement that fails leaves what its path leads to
alone, and a fold that fails leaves the file in agreement with the snapshot in memory.
There is one exception, the call behind the renaming: if the directory cannot be opened
or synced, the replacement fails although the path shows the new bytes already, and a
fold leaves the file one snapshot ahead of memory.
-/
import Replica.Proofs.Disk.Failure
import Replica.Proofs.State

namespace Replica

open FileSystem Replacement

variable {disk disk' : FileSystem} {mishap : Option Mishap} {state state' : StateStore}
  {message : Message}

theorem readSnapshot_of_readAll {path : String} {snapshot : Snapshot}
    (h : disk.readAll path = .ok snapshot.encode) :
    StateStore.readSnapshot disk path = .ok snapshot := by
  rw [StateStore.readSnapshot, h]
  exact Snapshot.decode_encode snapshot

theorem readSnapshot_of_sight? {path : String} {snapshot : Snapshot}
    (hsight : disk'.sight? path = disk.sight? path)
    (h : StateStore.readSnapshot disk path = .ok snapshot) :
    StateStore.readSnapshot disk' path = .ok snapshot := by
  rw [StateStore.readSnapshot] at h ⊢
  cases hread : disk.readAll path with
  | error e =>
    rw [hread] at h
    cases h
  | ok image =>
    have hread' : disk'.readAll path = .ok image :=
      readAll_eq_ok_iff.2 (hsight.trans (readAll_eq_ok_iff.1 hread))
    rw [hread] at h
    rw [hread']
    exact h

/-- A fold that fails is the fold of a closed store, or its replacement failed; memory is as it was. -/
theorem applyWith_error {e : StoreError}
    (hrun : StateStore.applyWith mishap message (state, disk) = .error e (state', disk')) :
    state' = state ∧ (disk' = disk ∨
      ∃ e', replaceWith mishap state.path (state.next message).encode disk = .error e' disk') := by
  rw [StateStore.applyWith_eq] at hrun
  split at hrun
  · cases hrun
    exact ⟨rfl, .inl rfl⟩
  · split at hrun
    · rename_i e' disk₁ hreplace
      cases hrun
      exact ⟨rfl, .inr ⟨e', hreplace⟩⟩
    · cases hrun

/-- **A replacement that fails leaves the path alone, and a fold that fails leaves file and memory in
agreement**, unless it is the opening or the sync of the directory behind the renaming that fails:
then the path shows the new bytes, and the file is one snapshot ahead of memory. -/
theorem failed_leaves (hown : disk.OwnFiles) (mishap : Option Mishap) :
    (∀ path data e disk', replaceWith mishap path data disk = .error e disk' →
      disk'.OwnFiles ∧ (disk'.sight? path = disk.sight? path ∨
        ∃ m, mishap = some m ∧ m.step = 4 ∧ disk'.sight? path = some (.file data))) ∧
    ∀ state message e state' disk',
      StateStore.applyWith mishap message (state, disk) = .error e (state', disk') →
      StateStore.readSnapshot disk state.path = .ok state.snapshot →
      state' = state ∧ (StateStore.readSnapshot disk' state.path = .ok state.snapshot ∨
        ∃ m, mishap = some m ∧ m.step = 4 ∧
          StateStore.readSnapshot disk' state.path = .ok (state.next message)) := by
  refine ⟨fun path data e disk' hrun => ⟨?_, replaceWith_error hown hrun⟩,
    fun state message e state' disk' hrun hread => ?_⟩
  · have hown' := ownFiles_replaceWith mishap path data hown
    rw [outcome, hrun] at hown'
    exact hown'
  obtain ⟨hstate, rfl | ⟨e', hreplace⟩⟩ := applyWith_error hrun
  · exact ⟨hstate, .inl hread⟩
  · refine ⟨hstate, ?_⟩
    rcases replaceWith_error hown hreplace with hsight | ⟨m, hm, hstep, hsight⟩
    · exact .inl (readSnapshot_of_sight? hsight hread)
    · exact .inr ⟨m, hm, hstep, readSnapshot_of_readAll (readAll_eq_ok_iff.2 hsight)⟩

/-- A state file that holds the digest 5 of one message. -/
def fiveSaved : FileSystem := (outcome (replaceWith none "/state.db" (Snapshot.encode ⟨⟨5⟩, 1⟩)) {}).2

/-- The store that is open on it. -/
def five : StateStore := ⟨"/state.db", .sum, ⟨⟨5⟩, 1⟩, false⟩

theorem readSnapshot_fiveSaved :
    StateStore.readSnapshot fiveSaved "/state.db" = .ok ⟨⟨5⟩, 1⟩ :=
  readSnapshot_of_readAll (readAll_eq_ok_iff.2 (by decide +kernel))

/-- A fold whose temporary file is written in part only: the file still holds the digest 5. -/
theorem failed_leaves_tornWrite : fiveSaved.OwnFiles ∧ ∃ e disk',
    StateStore.applyWith (some ⟨1, 3, .noSpace⟩) ⟨⟨8⟩, []⟩ (five, fiveSaved) =
        .error e (five, disk') ∧
      StateStore.readSnapshot disk' "/state.db" = .ok ⟨⟨5⟩, 1⟩ := by
  have hown : fiveSaved.OwnFiles :=
    ownFiles_replaceWith none "/state.db" (Snapshot.encode ⟨⟨5⟩, 1⟩) ownFiles_nothing
  have hfails : (match StateStore.applyWith (some ⟨1, 3, .noSpace⟩) ⟨⟨8⟩, []⟩ (five, fiveSaved) with
      | .ok _ _ => false
      | .error _ _ => true) = true := by
    decide +kernel
  cases hrun : StateStore.applyWith (some ⟨1, 3, .noSpace⟩) ⟨⟨8⟩, []⟩ (five, fiveSaved) with
  | ok digest s =>
    rw [hrun] at hfails
    cases hfails
  | error e s =>
    obtain ⟨state', disk'⟩ := s
    obtain ⟨rfl, hread | ⟨m, hm, hstep, -⟩⟩ := (failed_leaves hown (some ⟨1, 3, .noSpace⟩)).2
      five ⟨⟨8⟩, []⟩ e state' disk' hrun readSnapshot_fiveSaved
    · exact ⟨hown, e, disk', rfl, hread⟩
    · cases hm
      cases hstep

/-- The sync of the directory behind a renaming fails. -/
def syncParentFails : Mishap := ⟨4, 0, .invalidArgument⟩

/-- **What fails behind the renaming is visible**: the replacement returned an error and the path shows
its bytes; the fold returned an error, memory has the digest 5 and the file the digest 13. And where
the renaming fails because the path leads up to a directory, the temporary file stays in it. -/
theorem failed_behind_renaming :
    (let s := outcome (replaceWith (some syncParentFails) "/state.db" [1]) fiveSaved;
      s.1.isOk = false ∧
        fiveSaved.sight? "/state.db" = some (.file (Snapshot.encode ⟨⟨5⟩, 1⟩)) ∧
        s.2.sight? "/state.db" = some (.file [1])) ∧
      (let s := outcome (StateStore.applyWith (some syncParentFails) ⟨⟨8⟩, []⟩) (five, fiveSaved);
        s.1.isOk = false ∧ s.2.1.snapshot = ⟨⟨5⟩, 1⟩ ∧
          StateStore.readSnapshot s.2.2 "/state.db" = .ok ⟨⟨13⟩, 2⟩) ∧
      let disk := (outcome (makeDirectory "/s") {}).2;
      let s := outcome (replaceWith none "/s/.." [0xdd]) disk;
      s.1.isOk = false ∧ disk.exists "/.tmp" = false ∧ s.2.exists "/.tmp" = true := by
  refine ⟨?_, ⟨?_, ?_, ?_⟩, ?_⟩
  · decide +kernel
  · decide +kernel
  · decide +kernel
  · exact readSnapshot_of_readAll (readAll_eq_ok_iff.2 (by decide +kernel))
  · decide +kernel

end Replica
