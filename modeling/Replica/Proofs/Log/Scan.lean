/-
Scans as walks.

`Walk` is the relation a successful scan computes (`scanFrom_eq_ok_iff`): from
record to record up to the end or to a torn one. By induction on it: an image
without a torn record can be continued with any bytes, and the scan goes on
behind it (`scanFrom_append`); and the intact part of an image scans to the same
records without a torn one (`Walk.take_valid`). The image of frames laid one behind
the other scans to the records of their entries (`walk_framesOf`).
-/
import Replica.Proofs.Log.Front

namespace Replica

open Scan

/-- A walk over the rest of a log that starts at an offset, and what it finds. -/
inductive Walk (format : LogFormat) : (offset : Nat) → (rest : Bytes) → Scan → Prop
  | done (offset : Nat) : Walk format offset [] ⟨[], offset, none⟩
  | torn {offset : Nat} {rest : Bytes} {reason : TornReason} (hrest : rest ≠ [])
      (h : front format offset rest = .torn reason) :
      Walk format offset rest ⟨[], offset, some ⟨offset, rest.length, reason⟩⟩
  | record {offset : Nat} {rest : Bytes} {record : LogRecord} {scan : Scan}
      (h : Intact format offset rest record)
      (tail : Walk format (offset + frameLength rest) (rest.drop (frameLength rest)) scan) :
      Walk format offset rest (scan.behind [record])

theorem Scan.Intact.ne_nil {format : LogFormat} {offset : Nat} {rest : Bytes} {record : LogRecord}
    (h : Intact format offset rest record) : rest ≠ [] := by
  have hlen := h.length_le
  have hheader := headerLength_lt_frameLength rest
  rintro rfl
  simp only [List.length_nil] at hlen
  omega

theorem scanFrom_of_intact {format : LogFormat} {offset : Nat} {rest : Bytes} {record : LogRecord}
    (h : Intact format offset rest record) :
    scanFrom format offset rest =
      (scanFrom format (offset + frameLength rest) (rest.drop (frameLength rest))).map
        (Scan.behind [record]) := by
  rw [scanFrom_eq, if_neg h.ne_nil, front_eq_record_iff.2 h]
  dsimp only
  rw [h.length_payload]

theorem scanFrom_of_torn {format : LogFormat} {offset : Nat} {rest : Bytes} {reason : TornReason}
    (hrest : rest ≠ []) (h : front format offset rest = .torn reason) :
    scanFrom format offset rest = .ok ⟨[], offset, some ⟨offset, rest.length, reason⟩⟩ := by
  rw [scanFrom_eq, if_neg hrest, h]

theorem scanFrom_of_damaged {format : LogFormat} {offset : Nat} {rest : Bytes} {error : StoreError}
    (hrest : rest ≠ []) (h : front format offset rest = .damaged error) :
    scanFrom format offset rest = .error error := by
  rw [scanFrom_eq, if_neg hrest, h]

/-- What holds at the end of a log, at a torn or damaged front, and in front of an intact record if
it holds behind, holds of every rest of a log. -/
theorem scanFrom_induction (format : LogFormat) {motive : Nat → Bytes → Prop}
    (done : ∀ offset, motive offset [])
    (torn : ∀ {offset rest reason}, rest ≠ [] → front format offset rest = .torn reason →
      motive offset rest)
    (damaged : ∀ {offset rest error}, rest ≠ [] → front format offset rest = .damaged error →
      motive offset rest)
    (record : ∀ {offset rest record}, Intact format offset rest record →
      motive (offset + frameLength rest) (rest.drop (frameLength rest)) → motive offset rest)
    (offset : Nat) (rest : Bytes) : motive offset rest := by
  induction hn : rest.length using Nat.strongRecOn generalizing offset rest with
  | ind n ih =>
    subst hn
    by_cases hrest : rest = []
    · subst hrest
      exact done offset
    · cases hfront : front format offset rest with
      | torn reason => exact torn hrest hfront
      | damaged error => exact damaged hrest hfront
      | record found =>
        have hheader := headerLength_lt_frameLength rest
        have hpos := List.length_pos_iff.2 hrest
        refine record (front_eq_record_iff.1 hfront) (ih _ ?_ _ _ rfl)
        rw [List.length_drop]
        omega

theorem Walk.scanFrom_eq_ok {format : LogFormat} {offset : Nat} {rest : Bytes} {scan : Scan}
    (h : Walk format offset rest scan) : scanFrom format offset rest = .ok scan := by
  induction h with
  | done offset => rw [scanFrom_eq]; rfl
  | torn hrest hfront => exact scanFrom_of_torn hrest hfront
  | record hintact _ ih => rw [scanFrom_of_intact hintact, ih]; rfl

theorem walk_of_scanFrom {format : LogFormat} {offset : Nat} {rest : Bytes} {scan : Scan}
    (h : scanFrom format offset rest = .ok scan) : Walk format offset rest scan := by
  induction offset, rest using scanFrom_induction format generalizing scan with
  | done offset =>
    rw [scanFrom_eq] at h
    cases h
    exact .done offset
  | torn hrest hfront =>
    rw [scanFrom_of_torn hrest hfront] at h
    cases h
    exact .torn hrest hfront
  | damaged hrest hfront =>
    rw [scanFrom_of_damaged hrest hfront] at h
    cases h
  | @record offset rest record hintact ih =>
    rw [scanFrom_of_intact hintact] at h
    cases htail : scanFrom format (offset + frameLength rest) (rest.drop (frameLength rest)) with
    | error e => rw [htail] at h; cases h
    | ok scan =>
      rw [htail] at h
      cases h
      exact .record hintact (ih htail)

/-- **A scan succeeds with what a walk finds.** -/
theorem scanFrom_eq_ok_iff {format : LogFormat} {offset : Nat} {rest : Bytes} {scan : Scan} :
    scanFrom format offset rest = .ok scan ↔ Walk format offset rest scan :=
  ⟨walk_of_scanFrom, Walk.scanFrom_eq_ok⟩

theorem scan_nil (format : LogFormat) : scan format [] = .ok ⟨[], 0, none⟩ :=
  (Walk.done 0).scanFrom_eq_ok

theorem Walk.payload_le {format : LogFormat} {offset : Nat} {rest : Bytes} {scan : Scan}
    (h : Walk format offset rest scan) :
    ∀ record ∈ scan.records, record.payload.length ≤ Frame.maxPayload := by
  induction h with
  | done | torn => simp
  | record hintact _ ih =>
    intro record hmem
    rcases List.mem_cons.1 hmem with rfl | hmem
    · exact hintact.payload_le
    · exact ih record hmem

theorem Walk.eq_nil {format : LogFormat} {offset : Nat} {rest : Bytes} {scan : Scan}
    (h : Walk format offset rest scan) (hwhole : scan.tornTail = none) (hnone : scan.records = []) :
    rest = [] := by
  cases h with
  | done => rfl
  | torn => cases hwhole
  | record => simp [Scan.behind] at hnone

/-! ## Where a walk ends -/

theorem Walk.offset_le {format : LogFormat} {offset : Nat} {rest : Bytes} {scan : Scan}
    (h : Walk format offset rest scan) : offset ≤ scan.validLength := by
  induction h with
  | done | torn => exact Nat.le_refl _
  | record _ _ ih => simp only [Scan.behind]; omega

theorem Walk.validLength_le {format : LogFormat} {offset : Nat} {rest : Bytes} {scan : Scan}
    (h : Walk format offset rest scan) : scan.validLength ≤ offset + rest.length := by
  induction h with
  | done | torn => simp
  | @record offset rest record scan hintact tail ih =>
    have hlen := hintact.length_le
    simp only [List.length_drop, Scan.behind] at ih ⊢
    omega

theorem Walk.validLength_of_whole {format : LogFormat} {offset : Nat} {rest : Bytes} {scan : Scan}
    (h : Walk format offset rest scan) (hwhole : scan.tornTail = none) :
    scan.validLength = offset + rest.length := by
  induction h with
  | done => simp
  | torn => cases hwhole
  | @record offset rest record scan hintact tail ih =>
    have hlen := hintact.length_le
    have ih := ih hwhole
    simp only [List.length_drop, Scan.behind] at ih ⊢
    omega

theorem Walk.validLength_of_torn {format : LogFormat} {offset : Nat} {rest : Bytes} {scan : Scan}
    (h : Walk format offset rest scan) {torn : TornTail} (htorn : scan.tornTail = some torn) :
    torn.offset = scan.validLength ∧ scan.validLength < offset + rest.length := by
  induction h with
  | done => cases htorn
  | torn hrest =>
    cases htorn
    exact ⟨rfl, Nat.lt_add_of_pos_right (List.length_pos_iff.2 hrest)⟩
  | @record offset rest record scan hintact tail ih =>
    obtain ⟨hoffset, hlt⟩ := ih htorn
    have hlen := hintact.length_le
    simp only [List.length_drop, Scan.behind] at hlt ⊢
    exact ⟨hoffset, by omega⟩

/-! ## Continuing an image, and cutting one -/

/-- **An image without a torn record can be continued**: the scan finds its records and goes on
behind them. -/
theorem Walk.scanFrom_append {format : LogFormat} {offset : Nat} {image : Bytes} {scan : Scan}
    (h : Walk format offset image scan) (hwhole : scan.tornTail = none) (more : Bytes) :
    scanFrom format offset (image ++ more) =
      (scanFrom format (offset + image.length) more).map (Scan.behind scan.records) := by
  induction h with
  | done offset =>
    simp only [List.nil_append, List.length_nil, Nat.add_zero]
    cases scanFrom format offset more <;> rfl
  | torn => cases hwhole
  | @record offset rest record scan hintact tail ih =>
    have hlen := hintact.length_le
    have hfront : (rest ++ more).take (frameLength rest) = rest.take (frameLength rest) :=
      List.take_append_of_le_length hlen
    have hmore := hintact.of_take_eq hfront
    have hframe : frameLength (rest ++ more) = frameLength rest := by
      rw [← hmore.length_payload, hintact.length_payload]
    rw [scanFrom_of_intact hmore, hframe, List.drop_append_of_le_length hlen, ih hwhole,
      List.length_drop, show offset + frameLength rest + (rest.length - frameLength rest) =
        offset + rest.length by omega]
    cases scanFrom format (offset + rest.length) more <;> rfl

/-- The intact part of an image scans to the same records and has no torn one. -/
theorem Walk.take_valid {format : LogFormat} {offset : Nat} {rest : Bytes} {scan : Scan}
    (h : Walk format offset rest scan) :
    Walk format offset (rest.take (scan.validLength - offset)) { scan with tornTail := none } := by
  induction h with
  | done offset => simpa using @Walk.done format offset
  | @torn offset => simpa using @Walk.done format offset
  | @record offset rest record scan hintact tail ih =>
    have hle := tail.offset_le
    have hvalid := tail.validLength_le
    have hlen := hintact.length_le
    rw [List.length_drop] at hvalid
    have hfront : (rest.take (scan.validLength - offset)).take (frameLength rest) =
        rest.take (frameLength rest) := by
      rw [List.take_take, Nat.min_eq_left (by omega)]
    have hcut := hintact.of_take_eq hfront
    have hframe : frameLength (rest.take (scan.validLength - offset)) = frameLength rest := by
      rw [← hcut.length_payload, hintact.length_payload]
    have hdrop : (rest.take (scan.validLength - offset)).drop
        (frameLength (rest.take (scan.validLength - offset))) =
          (rest.drop (frameLength rest)).take (scan.validLength - (offset + frameLength rest)) := by
      rw [hframe, List.drop_take, Nat.sub_add_eq]
    rw [← hdrop, ← hframe] at ih
    exact .record hcut ih

/-! ## Images of frames -/

/-- Whether these bytes are a record as it is framed. -/
def Frame.IsFrame (magic : Magic) (frame : Bytes) : Prop :=
  ∃ kind payload, Frame.encode magic kind payload = .ok frame

theorem Frame.encode_eq_ok_iff {magic : Magic} {kind : RecordKind} {payload frame : Bytes} :
    Frame.encode magic kind payload = .ok frame ↔
      payload.length ≤ Frame.maxPayload ∧ frame = Frame.toBytes magic kind payload := by
  unfold Frame.encode
  split
  · simp only [reduceCtorEq, false_iff, not_and]
    omega
  · simp only [Except.ok.injEq]
    constructor
    · rintro rfl
      exact ⟨by omega, rfl⟩
    · rintro ⟨_, rfl⟩
      rfl

theorem walk_toBytes (format : LogFormat) (offset : Nat) {kind : RecordKind} {payload : Bytes}
    (h : payload.length ≤ Frame.maxPayload) :
    Walk format offset (Frame.toBytes format.magic kind payload)
      ⟨[⟨offset, kind, payload⟩], offset + Frame.length payload.length, none⟩ := by
  have hintact := @intact_toBytes format offset kind payload h []
  rw [List.append_nil] at hintact
  have hframe : frameLength (Frame.toBytes format.magic kind payload) =
      Frame.length payload.length := hintact.length_payload.symm
  have hend := @Walk.done format (offset + Frame.length payload.length)
  have hdrop : (Frame.toBytes format.magic kind payload).drop (Frame.length payload.length) = [] :=
    List.drop_eq_nil_of_le (Nat.le_of_eq (Frame.length_toBytes _ _ _))
  rw [← hdrop, ← hframe] at hend
  have hwalk := Walk.record hintact hend
  rw [hframe] at hwalk
  exact hwalk

/-- A frame that was written in part: none of it is read, and none of it fails the scan. -/
theorem walk_part (format : LogFormat) (offset : Nat) {kind : RecordKind} {payload : Bytes}
    (h : payload.length ≤ Frame.maxPayload) {n : Nat} (hpart : n < Frame.length payload.length) :
    ∃ torn, Walk format offset ((Frame.toBytes format.magic kind payload).take n)
      ⟨[], offset, torn⟩ := by
  by_cases hrest : (Frame.toBytes format.magic kind payload).take n = []
  · rw [hrest]
    exact ⟨none, .done offset⟩
  · obtain ⟨reason, hfront⟩ := @front_of_part kind payload format offset h n hpart
    exact ⟨_, .torn hrest hfront⟩

/-- Behind an image without a torn record, a part of a frame changes nothing that is read. -/
theorem scan_append_part {format : LogFormat} {image : Bytes} {found : Scan}
    (hscan : scan format image = .ok found) (hwhole : found.tornTail = none) {kind : RecordKind}
    {payload : Bytes} (h : payload.length ≤ Frame.maxPayload) {n : Nat}
    (hpart : n < Frame.length payload.length) :
    ∃ found', scan format (image ++ (Frame.toBytes format.magic kind payload).take n) = .ok found' ∧
      found'.records = found.records := by
  obtain ⟨torn, hwalk⟩ := @walk_part format image.length kind payload h n hpart
  have hfound := (scanFrom_eq_ok_iff.1 hscan).scanFrom_append hwhole
    ((Frame.toBytes format.magic kind payload).take n)
  rw [Nat.zero_add, hwalk.scanFrom_eq_ok] at hfound
  exact ⟨_, hfound, by simp [Scan.behind]⟩

/-! ## Frames one behind the other -/

/-- The records of these entries when their frames stand one behind the other from `offset` on. -/
def recordsFrom (offset : Nat) : List (RecordKind × Bytes) → List LogRecord
  | [] => []
  | (kind, payload) :: entries =>
    ⟨offset, kind, payload⟩ :: recordsFrom (offset + Frame.length payload.length) entries

/-- The frames of these entries. -/
def framesOf (magic : Magic) (entries : List (RecordKind × Bytes)) : List Bytes :=
  entries.map fun entry => Frame.toBytes magic entry.1 entry.2

/-- **Frames one behind the other** scan to the records of their entries. -/
theorem walk_framesOf (format : LogFormat) {entries : List (RecordKind × Bytes)}
    (h : ∀ entry ∈ entries, entry.2.length ≤ Frame.maxPayload) (offset : Nat) :
    Walk format offset (framesOf format.magic entries).flatten
      ⟨recordsFrom offset entries, offset + (framesOf format.magic entries).flatten.length, none⟩ := by
  induction entries generalizing offset with
  | nil => exact .done offset
  | cons entry entries ih =>
    obtain ⟨kind, payload⟩ := entry
    have htail := ih (fun other hother => h other (List.mem_cons_of_mem _ hother))
      (offset + Frame.length payload.length)
    have hpayload : payload.length ≤ Frame.maxPayload := h _ (List.mem_cons_self ..)
    rw [← scanFrom_eq_ok_iff] at htail ⊢
    simp only [framesOf, List.map_cons, List.flatten_cons] at htail ⊢
    rw [(walk_toBytes format offset hpayload).scanFrom_append rfl, Frame.length_toBytes, htail]
    simp [Except.map, Scan.behind, recordsFrom, Frame.length_toBytes, Nat.add_assoc]

theorem exists_framesOf {magic : Magic} {frames : List Bytes}
    (h : ∀ frame ∈ frames, Frame.IsFrame magic frame) :
    ∃ entries : List (RecordKind × Bytes),
      (∀ entry ∈ entries, entry.2.length ≤ Frame.maxPayload) ∧ frames = framesOf magic entries := by
  induction frames with
  | nil => exact ⟨[], by simp, rfl⟩
  | cons frame frames ih =>
    obtain ⟨kind, payload, hencode⟩ := h frame (List.mem_cons_self ..)
    obtain ⟨hfits, rfl⟩ := Frame.encode_eq_ok_iff.1 hencode
    obtain ⟨entries, hentries, rfl⟩ := ih fun other hother => h other (List.mem_cons_of_mem _ hother)
    exact ⟨(kind, payload) :: entries, List.forall_mem_cons.2 ⟨hfits, hentries⟩, rfl⟩

theorem walk_frames (format : LogFormat) {frames : List Bytes}
    (h : ∀ frame ∈ frames, Frame.IsFrame format.magic frame) (offset : Nat) :
    ∃ records, Walk format offset frames.flatten ⟨records, offset + frames.flatten.length, none⟩ := by
  obtain ⟨entries, hentries, rfl⟩ := exists_framesOf h
  exact ⟨_, walk_framesOf format hentries offset⟩

/-! ## Failing scans -/

theorem isCorruption_of_scan {format : LogFormat} {offset : Nat} {rest : Bytes} {error : StoreError}
    (h : scanFrom format offset rest = .error error) : error.isCorruption = true := by
  induction offset, rest using scanFrom_induction format with
  | done offset => rw [scanFrom_eq] at h; cases h
  | torn hrest hfront => rw [scanFrom_of_torn hrest hfront] at h; cases h
  | damaged hrest hfront =>
    rw [scanFrom_of_damaged hrest hfront] at h
    cases h
    exact isCorruption_of_front hfront
  | @record offset rest record hintact ih =>
    rw [scanFrom_of_intact hintact] at h
    cases htail : scanFrom format (offset + frameLength rest) (rest.drop (frameLength rest)) with
    | error e =>
      rw [htail] at h
      cases h
      exact ih htail
    | ok scan => rw [htail] at h; cases h

end Replica
