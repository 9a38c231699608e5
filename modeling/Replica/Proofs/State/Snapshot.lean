/-
Images of snapshots that were damaged.

An image is read only if its last four bytes are the checksum of those before them, so
behind an image that is read the checksum register stands at its residue
(`residue_of_decode`). A burst moves the register elsewhere, whichever of the bytes it
hits: the magic, a field, the checksum or the end of the one and the start of the other.
-/
import Replica.Proofs.State
import Replica.Proofs.Checksum.Burst

namespace Replica
namespace Snapshot

open Checksum

variable {image : Bytes} {snapshot : Snapshot}

theorem isCorruption_of_decode {error : StoreError} (h : decode image = .error error) :
    error.isCorruption = true := by
  unfold decode at h
  dsimp only at h
  split at h
  · cases h
    rfl
  split at h
  · cases h
    rfl
  split at h
  · cases h
    rfl
  split at h
  · cases h
  · cases h
    rfl

theorem decode_of_length_ne (h : image.length ≠ imageLength) :
    decode image = .error (.corrupted stateName (.snapshotLength imageLength image.length)) := by
  unfold decode
  dsimp only
  rw [if_pos h]

theorem checked_of_decode (h : decode image = .ok snapshot) :
    image.length = imageLength ∧
      UInt32.ofNat (field image coveredLength 4) = checksum (image.take coveredLength) := by
  unfold decode at h
  dsimp only at h
  split at h
  · cases h
  rename_i hlength
  split at h
  · cases h
  split at h
  · cases h
  split at h
  · rename_i hchecksum
    exact ⟨Decidable.not_not.1 hlength, hchecksum⟩
  · cases h

/-- **Behind an image that is read** the register stands at the residue. -/
theorem residue_of_decode (h : decode image = .ok snapshot) :
    image.foldl absorbTable start = residue := by
  obtain ⟨hlength, hchecksum⟩ := checked_of_decode h
  have hstored : (image.drop coveredLength).length = 4 := by
    rw [List.length_drop, hlength]
    rfl
  have hfield : field image coveredLength 4 = fromLittleEndian (image.drop coveredLength) := by
    rw [field, List.take_of_length_le (Nat.le_of_eq hstored)]
  rw [hfield] at hchecksum
  rw [← List.take_append_drop coveredLength image]
  exact (foldl_append_eq_residue_iff _ hstored).2 hchecksum

/-- **A burst is noticed**: of two images that agree outside four bytes in a row one is read at most. -/
theorem eq_of_decode_of_burst {start : Nat} {image' : Bytes} {snapshot' : Snapshot}
    (hburst : AgreeOutside start image image') (h : decode image = .ok snapshot)
    (h' : decode image' = .ok snapshot') : image = image' :=
  eq_of_foldl_eq hburst ((residue_of_decode h).trans (residue_of_decode h').symm)

/-- **The image of a snapshot** is read as that snapshot. An image of another length is refused for
its length, and one that differs from it in no more than four bytes in a row is refused as damaged,
wherever they are. -/
theorem image_self_checking (snapshot : Snapshot) :
    decode snapshot.encode = .ok snapshot ∧
      (∀ image : Bytes, image.length ≠ snapshot.encode.length →
        decode image = .error
          (.corrupted stateName (.snapshotLength snapshot.encode.length image.length))) ∧
      ∀ (start : Nat) (image : Bytes), AgreeOutside start snapshot.encode image →
        image ≠ snapshot.encode → ∃ error, decode image = .error error ∧ error.isCorruption = true := by
  refine ⟨decode_encode snapshot, fun image hlength => ?_, fun start image hburst hne => ?_⟩
  · rw [length_encode] at hlength ⊢
    exact decode_of_length_ne hlength
  · cases hdecode : decode image with
    | error error => exact ⟨error, rfl, isCorruption_of_decode hdecode⟩
    | ok other =>
      have hsame := eq_of_decode_of_burst hburst (decode_encode snapshot) hdecode
      exact absurd hsame.symm hne

end Snapshot
end Replica
