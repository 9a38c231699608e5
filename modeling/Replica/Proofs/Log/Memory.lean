/-
Logs over bytes in memory, whose plan says what fails.

Whether a frame is written, and whether the log is cut back if it is not, is up
to the plan alone.
-/
import Replica.Proofs.Log

namespace Replica

namespace MemoryStore

/-- Whether the plan lets the next write of a frame fail. -/
def FailsToWrite (store : MemoryStore) (syncOnWrite : Bool) : Prop :=
  (store.plan.append (store.counts.append + 1)).isSome = true ∨
    syncOnWrite = true ∧ store.plan.sync (store.counts.sync + 1) = true

theorem truncate_ok_iff {store : MemoryStore} {world : Unit} {n : Nat} :
    (∃ s, ByteStore.truncate n (store, world) = .ok () s) ↔
      store.plan.truncate (store.counts.truncate + 1) = false ∧ n ≤ store.bytes.length := by
  show (∃ s, truncate n (store, world) = .ok () s) ↔ _
  unfold truncate
  dsimp only
  split
  · rename_i hplan
    simp [hplan]
  · rename_i hplan
    split
    · rename_i hshort
      simp only [reduceCtorEq, exists_false, false_iff, not_and]
      omega
    · rename_i hshort
      simp only [Bool.not_eq_true] at hplan
      exact ⟨fun _ => ⟨hplan, by omega⟩, fun _ => ⟨_, rfl⟩⟩

theorem append_of_none {store : MemoryStore} (h : store.plan.append (store.counts.append + 1) = none)
    (data : Bytes) (world : Unit) :
    ByteStore.append data (store, world) = .ok store.bytes.length
      ({ store with
          bytes := store.bytes ++ data
          counts := { store.counts with append := store.counts.append + 1 } }, world) := by
  show append data (store, world) = _
  simp only [append, h]

theorem append_of_some {store : MemoryStore} {written : Nat}
    (h : store.plan.append (store.counts.append + 1) = some written) (data : Bytes) (world : Unit) :
    ByteStore.append data (store, world) = .error (injected "append" (store.counts.append + 1))
      ({ store with
          bytes := store.bytes ++ data.take written
          counts := { store.counts with append := store.counts.append + 1 } }, world) := by
  show append data (store, world) = _
  simp only [append, h]

theorem sync_eq (store : MemoryStore) (world : Unit) :
    ByteStore.sync (store, world) =
      if store.plan.sync (store.counts.sync + 1) then
        .error (injected "sync" (store.counts.sync + 1))
          ({ store with counts := { store.counts with sync := store.counts.sync + 1 } }, world)
      else
        .ok () ({ store with counts := { store.counts with sync := store.counts.sync + 1 } }, world) :=
  rfl

theorem flush_eq (store : MemoryStore) (world : Unit) :
    ByteStore.flush (store, world) =
      if store.plan.flush (store.counts.flush + 1) then
        .error (injected "flush" (store.counts.flush + 1))
          ({ store with counts := { store.counts with flush := store.counts.flush + 1 } }, world)
      else
        .ok () ({ store with counts := { store.counts with flush := store.counts.flush + 1 } }, world) :=
  rfl

theorem write_cases (store : MemoryStore) (syncOnWrite : Bool) (frame : Bytes) :
    (¬ store.FailsToWrite syncOnWrite ∧
        ∃ offset s, Log.write syncOnWrite frame (store, ()) = .ok offset s) ∨
      store.FailsToWrite syncOnWrite ∧
        ∃ e store', Log.write syncOnWrite frame (store, ()) = .error e (store', ()) ∧
          store'.plan = store.plan ∧ store'.counts.truncate = store.counts.truncate ∧
          store.bytes.length ≤ store'.bytes.length := by
  rw [Log.write_eq]
  cases happend : store.plan.append (store.counts.append + 1) with
  | some written =>
    rw [append_of_some happend]
    exact .inr ⟨.inl (by rw [happend]; rfl), _, _, rfl, rfl, rfl, by simp⟩
  | none =>
    rw [append_of_none happend]
    cases syncOnWrite with
    | false => exact .inl ⟨by simp [FailsToWrite, happend], _, _, rfl⟩
    | true =>
      simp only [↓reduceIte, sync_eq]
      cases hsync : store.plan.sync (store.counts.sync + 1) with
      | false => exact .inl ⟨by simp [FailsToWrite, happend, hsync], _, _, rfl⟩
      | true => exact .inr ⟨.inr ⟨rfl, hsync⟩, _, _, rfl, rfl, rfl, by simp⟩

/-! ## The plan stays -/

theorem plan_append (data : Bytes) (s : MemoryStore × Unit) :
    (outcome (ByteStore.append data) s).2.1.plan = s.1.plan := by
  obtain ⟨store, world⟩ := s
  cases happend : store.plan.append (store.counts.append + 1) with
  | some written => rw [outcome, append_of_some happend]
  | none => rw [outcome, append_of_none happend]

theorem plan_sync (s : MemoryStore × Unit) :
    (outcome ByteStore.sync s).2.1.plan = s.1.plan := by
  obtain ⟨store, world⟩ := s
  rw [outcome, sync_eq]
  cases store.plan.sync (store.counts.sync + 1) <;> rfl

theorem plan_truncate (n : Nat) (s : MemoryStore × Unit) :
    (outcome (ByteStore.truncate n) s).2.1.plan = s.1.plan := by
  obtain ⟨store, world⟩ := s
  show (outcome (truncate n) (store, world)).2.1.plan = store.plan
  simp only [outcome, truncate]
  by_cases hplan : store.plan.truncate (store.counts.truncate + 1) = true
  · rw [if_pos hplan]
  · rw [if_neg hplan]
    by_cases hshort : store.bytes.length < n
    · rw [if_pos hshort]
    · rw [if_neg hshort]

theorem plan_of_ok {α : Type} {act : StoreAction MemoryStore Unit α} {s s' : MemoryStore × Unit}
    {a : α} {plan : FaultPlan} (hact : (outcome act s).2.1.plan = s.1.plan) (hs : s.1.plan = plan)
    (hrun : act s = .ok a s') : s'.1.plan = plan := by
  rw [outcome, hrun] at hact
  rw [← hs]
  exact hact

theorem plan_of_error {α : Type} {act : StoreAction MemoryStore Unit α} {s s' : MemoryStore × Unit}
    {e : StorageError} {plan : FaultPlan} (hact : (outcome act s).2.1.plan = s.1.plan)
    (hs : s.1.plan = plan) (hrun : act s = .error e s') : s'.1.plan = plan := by
  rw [outcome, hrun] at hact
  rw [← hs]
  exact hact

/-- A store in memory keeps to what its plan lets fail as it keeps to its bytes. -/
def contractUnder (plan : FaultPlan) : ByteStore.Contract MemoryStore Unit where
  Holds store world image := contract.Holds store world image ∧ store.plan = plan
  readAll h := contract.readAll h.1
  size h := contract.size h.1
  append_ok h hrun :=
    have ⟨hoffset, hheld⟩ := contract.append_ok h.1 hrun
    ⟨hoffset, hheld, plan_of_ok (plan_append _ _) h.2 hrun⟩
  append_error h hrun :=
    have ⟨n, hheld⟩ := contract.append_error h.1 hrun
    ⟨n, hheld, plan_of_error (plan_append _ _) h.2 hrun⟩
  sync_ok h hrun := ⟨contract.sync_ok h.1 hrun, plan_of_ok (plan_sync _) h.2 hrun⟩
  sync_error h hrun := ⟨contract.sync_error h.1 hrun, plan_of_error (plan_sync _) h.2 hrun⟩
  truncate_ok h hrun := ⟨contract.truncate_ok h.1 hrun, plan_of_ok (plan_truncate _ _) h.2 hrun⟩
  truncate_error h hrun :=
    ⟨contract.truncate_error h.1 hrun, plan_of_error (plan_truncate _ _) h.2 hrun⟩

end MemoryStore

theorem Log.rollsBack_iff_of_memory (log : Log MemoryStore) (frame : Bytes) :
    log.RollsBack () frame ↔
      (log.store.FailsToWrite log.syncOnWrite →
        log.store.plan.truncate (log.store.counts.truncate + 1) = false) := by
  have hwritten := onStore_eq (write log.syncOnWrite frame) log ()
  rcases MemoryStore.write_cases log.store log.syncOnWrite frame with
    ⟨hworks, offset, s, hwrite⟩ | ⟨hfails, e, store', hwrite, hplan, hcount, hlen⟩
  · rw [hwrite] at hwritten
    constructor
    · intro _ hfails
      exact absurd hfails hworks
    · intro _ e s' herror
      rw [hwritten] at herror
      cases herror
  · rw [hwrite] at hwritten
    have hcut : (∃ s, ByteStore.truncate log.store.bytes.length (store', ()) = .ok () s) ↔
        log.store.plan.truncate (log.store.counts.truncate + 1) = false := by
      rw [MemoryStore.truncate_ok_iff, hplan, hcount]
      exact and_iff_left hlen
    constructor
    · intro hroll _
      exact hcut.1 (onStore_ok_iff.1 (hroll _ _ hwritten))
    · intro htruncate e' s' herror
      rw [hwritten] at herror
      cases herror
      exact onStore_ok_iff.2 (hcut.2 (htruncate hfails))

theorem Log.append_succeeds {log : Log MemoryStore} (kind : RecordKind) {payload : Bytes}
    (hfits : payload.length ≤ Frame.maxPayload)
    (hplan : ¬ log.store.FailsToWrite log.syncOnWrite) :
    ∃ offset s, Log.append kind payload (log, ()) = .ok offset s := by
  have hencode : Frame.encode log.format.magic kind payload =
      .ok (Frame.toBytes log.format.magic kind payload) := Frame.encode_eq_ok_iff.2 ⟨hfits, rfl⟩
  rcases MemoryStore.write_cases log.store log.syncOnWrite
    (Frame.toBytes log.format.magic kind payload) with ⟨-, offset, s, hwrite⟩ | ⟨hfails, -⟩
  · rw [append_eq, hencode]
    simp only [onStore_eq, hwrite]
    exact ⟨_, _, rfl⟩
  · exact absurd hfails hplan

/-- **A log over bytes that scan** opens, since nothing fails below. -/
theorem Log.recover_ofBytes {format : LogFormat} {image : Bytes} {found : Scan}
    (h : scan format image = .ok found) :
    ∃ store, recover format (MemoryStore.ofBytes image, ()) = .ok found.records (store, ()) := by
  have hread := MemoryStore.readAll_eq (MemoryStore.ofBytes image) ()
  cases htail : found.tornTail with
  | none => exact ⟨_, recover_of_whole hread h htail⟩
  | some torn =>
    have hvalid : found.validLength ≤ (MemoryStore.ofBytes image).bytes.length := by
      have hle := (scanFrom_eq_ok_iff.1 h).validLength_le
      rw [Nat.zero_add] at hle
      exact hle
    have hcut : ∃ s, ByteStore.truncate found.validLength (MemoryStore.ofBytes image, ()) =
        .ok () s := MemoryStore.truncate_ok_iff.2 ⟨rfl, hvalid⟩
    obtain ⟨s, hcut⟩ := hcut
    exact ⟨s.1, by rw [recover_of_torn hread h htail, hcut]⟩

end Replica
