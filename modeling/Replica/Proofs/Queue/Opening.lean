/-
What bytes open to.

Bytes open to what their intact records replay to; there may be a torn record
behind them. A queue opens over bytes in memory exactly if they open to
something (`attach_ofBytes`). Behind an image that replays, a part of one more
record is torn and says nothing (`Replays.opensTo_part`).
-/
import Replica.Proofs.Log.Memory
import Replica.Proofs.Queue

namespace Replica

open Scan

namespace Queue

/-- **What bytes open to**: replaying their intact records gives `replay`. -/
def OpensTo (image : Bytes) (replay : QueueReplay) : Prop :=
  ∃ found, scan queueFormat image = .ok found ∧ replayQueue found.records = .ok replay

/-- **A queue opens over bytes in memory** exactly if they open to something, and that is what is
pending then. -/
theorem attach_ofBytes (options : StoreOptions) (image : Bytes) (pending : List Message) :
    (∃ queue s, attach options (MemoryStore.ofBytes image, ()) = .ok queue s ∧
        queue.pending = pending) ↔
      ∃ replay, OpensTo image replay ∧ replay.pending.toList = pending := by
  have hheld : MemoryStore.contract.Holds (MemoryStore.ofBytes image) () image := rfl
  constructor
  · rintro ⟨queue, s, hrun, rfl⟩
    rw [attach_eq] at hrun
    split at hrun
    · cases hrun
    · rename_i records s' hrecover
      obtain ⟨found, hscan, rfl, -⟩ := Log.recover_ok hheld hrecover
      split at hrun
      · cases hrun
      · rename_i replay hreplay
        cases hrun
        exact ⟨replay, ⟨found, hscan, hreplay⟩, rfl⟩
  · rintro ⟨replay, ⟨found, hscan, hreplay⟩, rfl⟩
    obtain ⟨store, hrecover⟩ := Log.recover_ofBytes hscan
    rw [attach_eq, hrecover]
    dsimp only
    rw [hreplay]
    exact ⟨_, _, rfl, rfl⟩

end Queue

namespace Replays

variable {image : Bytes} {replay : QueueReplay}

theorem opensTo (h : Replays image replay) : Queue.OpensTo image replay := by
  obtain ⟨found, hscan, -, hreplay⟩ := h
  exact ⟨found, hscan, hreplay⟩

/-- **A record that was written in part** says nothing yet. -/
theorem opensTo_part (h : Replays image replay) {kind : RecordKind} {payload : Bytes}
    (hfits : payload.length ≤ Frame.maxPayload) {n : Nat}
    (hpart : n < Frame.length payload.length) :
    Queue.OpensTo (image ++ (Frame.toBytes queueFormat.magic kind payload).take n) replay := by
  obtain ⟨found, hscan, hwhole, hreplay⟩ := h
  obtain ⟨found', hscan', hrecords⟩ :=
    @scan_append_part queueFormat image found hscan hwhole kind payload hfits n hpart
  exact ⟨found', hscan', by rw [hrecords, hreplay]⟩

end Replays

end Replica
