/-
What opening a log, appending to it and dropping its records do to the bytes
below.

Opening leaves the intact part of the bytes. An append that succeeds adds one
frame; one that fails leaves the bytes as they were, as long as cutting the log
back works (`RollsBack`).
-/
import Replica.Log
import Replica.Proofs.Actions
import Replica.Proofs.ByteStore
import Replica.Proofs.Log.Scan

namespace Replica.Log

variable {σ ω : Type} [ByteStore σ ω]

/-! ## Opening -/

theorem recover_of_scan_error {format : LogFormat} {store : σ} {world : ω} {image : Bytes}
    {error : StoreError} (hread : ByteStore.readAll store world = .ok image)
    (h : scan format image = .error error) :
    recover format (store, world) = .error error (store, world) := by
  simp only [recover, bind, EStateM.bind, get_apply, hread, h]
  rfl

theorem recover_of_whole {format : LogFormat} {store : σ} {world : ω} {image : Bytes} {found : Scan}
    (hread : ByteStore.readAll store world = .ok image) (h : scan format image = .ok found)
    (hwhole : found.tornTail = none) :
    recover format (store, world) = .ok found.records (store, world) := by
  simp only [recover, bind, EStateM.bind, get_apply, hread, h,
    hwhole]
  rfl

theorem recover_of_torn {format : LogFormat} {store : σ} {world : ω} {image : Bytes} {found : Scan}
    {torn : TornTail} (hread : ByteStore.readAll store world = .ok image)
    (h : scan format image = .ok found) (htorn : found.tornTail = some torn) :
    recover format (store, world) =
      match ByteStore.truncate found.validLength (store, world) with
      | .ok _ s => .ok found.records s
      | .error e s => .error (.storage e) s := by
  simp only [recover, bind, EStateM.bind, get_apply, hread, h,
    htorn, EStateM.adaptExcept]
  cases ByteStore.truncate found.validLength (store, world) <;> rfl

/-- **Opening a log** reads the records of what it leaves of the bytes, and there is no torn one
among them. -/
theorem recover_ok {C : ByteStore.Contract σ ω} {format : LogFormat} {store store' : σ} {world world' : ω}
    {image : Bytes} {records : List LogRecord} (h : C.Holds store world image)
    (hrun : recover format (store, world) = .ok records (store', world')) :
    ∃ found, scan format image = .ok found ∧ found.records = records ∧
      C.Holds store' world' (image.take found.validLength) ∧
      Walk format 0 (image.take found.validLength) { found with tornTail := none } := by
  have hread := C.readAll h
  cases hscan : scan format image with
  | error e =>
    rw [recover_of_scan_error hread hscan] at hrun
    cases hrun
  | ok found =>
    have hwalk := scanFrom_eq_ok_iff.1 hscan
    have hvalid := hwalk.take_valid
    rw [Nat.sub_zero] at hvalid
    refine ⟨found, rfl, ?_⟩
    cases htail : found.tornTail with
    | none =>
      rw [recover_of_whole hread hscan htail] at hrun
      cases hrun
      have hlen := hwalk.validLength_of_whole htail
      have htake : image.take found.validLength = image := List.take_of_length_le (by omega)
      rw [htake] at hvalid ⊢
      exact ⟨rfl, h, hvalid⟩
    | some torn =>
      rw [recover_of_torn hread hscan htail] at hrun
      split at hrun
      · rename_i s htruncate
        cases hrun
        exact ⟨rfl, C.truncate_ok h htruncate, hvalid⟩
      · cases hrun

/-! ## Appending -/

/-- Whether the log can be cut back if writing this frame fails. -/
def RollsBack (log : Log σ) (world : ω) (frame : Bytes) : Prop :=
  ∀ e s, onStore (write log.syncOnWrite frame) (log, world) = .error e s →
    ∃ s', onStore (ByteStore.truncate (ByteStore.size log.store world)) s = .ok () s'

omit [ByteStore σ ω] in
theorem onStore_eq {α : Type} (act : StoreAction σ ω α) (log : Log σ) (world : ω) :
    onStore act (log, world) =
      match act (log.store, world) with
      | .ok a (store, world') => .ok a ({ log with store }, world')
      | .error e (store, world') => .error (.storage e) ({ log with store }, world') := by
  simp only [onStore, Part.lift, Part.run, EStateM.adaptExcept, storePart]
  cases act (log.store, world) <;> rfl

omit [ByteStore σ ω] in
theorem onStore_ok_iff {α : Type} {act : StoreAction σ ω α} {log : Log σ} {world : ω} {a : α} :
    (∃ s, onStore act (log, world) = .ok a s) ↔ ∃ s, act (log.store, world) = .ok a s := by
  rw [onStore_eq]
  cases act (log.store, world) <;> simp

theorem write_eq (syncOnWrite : Bool) (frame : Bytes) (s : σ × ω) :
    write syncOnWrite frame s =
      match ByteStore.append frame s with
      | .error e s' => .error e s'
      | .ok offset s' =>
        if syncOnWrite then
          match ByteStore.sync s' with
          | .ok _ s'' => .ok offset s''
          | .error e s'' => .error e s''
        else .ok offset s' := by
  simp only [write, bind, EStateM.bind]
  cases ByteStore.append frame s with
  | error e s' => rfl
  | ok offset s' =>
    cases syncOnWrite with
    | false => rfl
    | true =>
      simp only [↓reduceIte, EStateM.bind]
      cases ByteStore.sync s' <;> rfl

theorem append_eq (kind : RecordKind) (payload : Bytes) (log : Log σ) (world : ω) :
    append kind payload (log, world) =
      match Frame.encode log.format.magic kind payload with
      | .error e => .error e (log, world)
      | .ok frame =>
        match onStore (write log.syncOnWrite frame) (log, world) with
        | .ok offset s => .ok offset s
        | .error e s =>
          match onStore (ByteStore.truncate (ByteStore.size log.store world)) s with
          | .ok _ s' => .error e s'
          | .error _ s' => .error e s' := rfl

section Contract

variable {C : ByteStore.Contract σ ω} {log log' : Log σ} {world world' : ω} {image frame payload : Bytes}
  {kind : RecordKind} {offset : Nat} {e : StoreError}

theorem write_ok {store store' : σ} {syncOnWrite : Bool} (h : C.Holds store world image)
    (hrun : write syncOnWrite frame (store, world) = .ok offset (store', world')) :
    offset = image.length ∧ C.Holds store' world' (image ++ frame) := by
  rw [write_eq] at hrun
  split at hrun
  · cases hrun
  · rename_i s happend
    obtain ⟨store₁, world₁⟩ := s
    obtain ⟨rfl, hheld⟩ := C.append_ok h happend
    split at hrun
    · split at hrun
      · rename_i s hsync
        obtain ⟨store₂, world₂⟩ := s
        cases hrun
        exact ⟨rfl, C.sync_ok hheld hsync⟩
      · cases hrun
    · cases hrun
      exact ⟨rfl, hheld⟩

/-- A write that fails leaves leading bytes of the frame, all of them if it is the sync that
fails. -/
theorem write_error {store store' : σ} {syncOnWrite : Bool} {e : StorageError}
    (h : C.Holds store world image)
    (hrun : write syncOnWrite frame (store, world) = .error e (store', world')) :
    ∃ n, C.Holds store' world' (image ++ frame.take n) := by
  rw [write_eq] at hrun
  split at hrun
  · rename_i s happend
    obtain ⟨store₁, world₁⟩ := s
    cases hrun
    exact C.append_error h happend
  · rename_i s happend
    obtain ⟨store₁, world₁⟩ := s
    obtain ⟨-, hheld⟩ := C.append_ok h happend
    split at hrun
    · split at hrun
      · cases hrun
      · rename_i s hsync
        obtain ⟨store₂, world₂⟩ := s
        cases hrun
        exact ⟨frame.length, by simpa using C.sync_error hheld hsync⟩
    · cases hrun

/-- **An append that succeeds** adds one frame. -/
theorem append_ok (h : C.Holds log.store world image)
    (hrun : append kind payload (log, world) = .ok offset (log', world')) :
    payload.length ≤ Frame.maxPayload ∧ offset = image.length ∧
      ∃ store', log' = { log with store := store' } ∧
        C.Holds store' world' (image ++ Frame.toBytes log.format.magic kind payload) := by
  rw [append_eq] at hrun
  split at hrun
  · cases hrun
  · rename_i frame hencode
    obtain ⟨hfits, rfl⟩ := Frame.encode_eq_ok_iff.1 hencode
    rw [onStore_eq] at hrun
    split at hrun
    · rename_i s hwrite
      split at hwrite
      · rename_i store₁ world₁ hwrite'
        cases hwrite
        cases hrun
        obtain ⟨hoffset, hheld⟩ := write_ok h hwrite'
        exact ⟨hfits, hoffset, store₁, rfl, hheld⟩
      · cases hwrite
    · split at hrun <;> cases hrun

/-- **How an append fails**: its record is too large and nothing has changed, or writing the frame failed
and the log has been cut back, as far as that went. -/
theorem append_error_cases (hrun : append kind payload (log, world) = .error e (log', world')) :
    Frame.encode log.format.magic kind payload = .error e ∧ log' = log ∧ world' = world ∨
      ∃ frame cause s, Frame.encode log.format.magic kind payload = .ok frame ∧
        write log.syncOnWrite frame (log.store, world) = .error cause s ∧ e = .storage cause ∧
        let back := (outcome (ByteStore.truncate (ByteStore.size log.store world)) s).2
        log' = { log with store := back.1 } ∧ world' = back.2 := by
  rw [append_eq] at hrun
  cases hencode : Frame.encode log.format.magic kind payload with
  | error e' =>
    rw [hencode] at hrun
    cases hrun
    exact .inl ⟨rfl, rfl, rfl⟩
  | ok frame =>
    rw [hencode] at hrun
    dsimp only at hrun
    cases hwrite : write log.syncOnWrite frame (log.store, world) with
    | ok offset s =>
      rw [onStore_eq, hwrite] at hrun
      cases hrun
    | error cause s =>
      refine .inr ⟨frame, cause, s, rfl, hwrite, ?_⟩
      rw [onStore_eq, hwrite] at hrun
      dsimp only at hrun
      rw [onStore_eq] at hrun
      cases hcut : ByteStore.truncate (ByteStore.size log.store world) s with
      | ok a s' =>
        rw [hcut] at hrun
        cases hrun
        exact ⟨rfl, by rw [outcome, hcut]; exact ⟨rfl, rfl⟩⟩
      | error cause' s' =>
        rw [hcut] at hrun
        cases hrun
        exact ⟨rfl, by rw [outcome, hcut]; exact ⟨rfl, rfl⟩⟩

/-- **An append that fails** leaves the bytes alone if cutting the log back works. -/
theorem append_error (h : C.Holds log.store world image)
    (hroll : ∀ frame, Frame.encode log.format.magic kind payload = .ok frame →
      RollsBack log world frame)
    (hrun : append kind payload (log, world) = .error e (log', world')) :
    ∃ store', log' = { log with store := store' } ∧ C.Holds store' world' image := by
  rcases append_error_cases hrun with
    ⟨-, rfl, rfl⟩ | ⟨frame, cause, ⟨store₁, world₁⟩, hencode, hwrite, -, rfl, rfl⟩
  · exact ⟨_, rfl, h⟩
  · have hfailed : onStore (write log.syncOnWrite frame) (log, world) =
        .error (.storage cause) ({ log with store := store₁ }, world₁) := by
      rw [onStore_eq, hwrite]
    obtain ⟨⟨store₂, world₂⟩, hcut⟩ := onStore_ok_iff.1 (hroll frame hencode _ _ hfailed)
    obtain ⟨n, hheld⟩ := write_error h hwrite
    rw [C.size h] at hcut
    have hback := C.truncate_ok hheld hcut
    rw [List.take_left] at hback
    rw [outcome, C.size h, hcut]
    exact ⟨store₂, rfl, hback⟩

/-- **An append that fails** whatever else fails leaves the bytes alone or leading bytes of one frame
behind them. -/
theorem append_error_part (h : C.Holds log.store world image)
    (hrun : append kind payload (log, world) = .error e (log', world')) :
    ∃ store', log' = { log with store := store' } ∧
      (C.Holds store' world' image ∨ payload.length ≤ Frame.maxPayload ∧
        ∃ n, C.Holds store' world'
          (image ++ (Frame.toBytes log.format.magic kind payload).take n)) := by
  rcases append_error_cases hrun with
    ⟨-, rfl, rfl⟩ | ⟨frame, cause, ⟨store₁, world₁⟩, hencode, hwrite, -, rfl, rfl⟩
  · exact ⟨_, rfl, .inl h⟩
  · obtain ⟨hfits, rfl⟩ := Frame.encode_eq_ok_iff.1 hencode
    obtain ⟨n, hheld⟩ := write_error h hwrite
    rw [outcome, C.size h]
    cases hcut : ByteStore.truncate image.length (store₁, world₁) with
    | ok a s =>
      have hback := C.truncate_ok hheld hcut
      rw [List.take_left] at hback
      exact ⟨_, rfl, .inl hback⟩
    | error cause' s => exact ⟨_, rfl, .inr ⟨hfits, n, C.truncate_error hheld hcut⟩⟩

/-! ## Dropping the records -/

theorem reset_ok {a : Unit} (h : C.Holds log.store world image)
    (hrun : reset (log, world) = .ok a (log', world')) :
    ∃ store', log' = { log with store := store' } ∧ C.Holds store' world' [] := by
  rw [reset, onStore_eq] at hrun
  split at hrun
  · rename_i store₁ world₁ hcut
    cases hrun
    exact ⟨store₁, rfl, C.truncate_ok h hcut⟩
  · cases hrun

theorem reset_error (h : C.Holds log.store world image)
    (hrun : reset (log, world) = .error e (log', world')) :
    ∃ store', log' = { log with store := store' } ∧ C.Holds store' world' image := by
  rw [reset, onStore_eq] at hrun
  split at hrun
  · cases hrun
  · rename_i store₁ world₁ hcut
    cases hrun
    exact ⟨store₁, rfl, C.truncate_error h hcut⟩

end Contract

end Replica.Log
