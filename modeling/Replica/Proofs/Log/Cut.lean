/-
Images of frames, cut anywhere.

`recordsFrom` lays entries one behind the other: each record stands where the
frame before it ends. The image of their frames, cut after any number of bytes,
scans to the records whose frames are whole; the rest is the torn tail
(`cutAt_take`, by induction on the entries). Zeros behind the image are a torn
tail of their own, and no record is taken for one: a frame's kind is not zero.
-/
import Replica.Proofs.Log.Scan

namespace Replica

open Scan

/-! ## Entries, laid one behind the other -/

/-- Where the frame of a record ends. -/
def LogRecord.finish (record : LogRecord) : Nat :=
  record.offset + Frame.length record.payload.length

theorem mapM_encode_eq_ok_iff {magic : Magic} {entries : List (RecordKind × Bytes)}
    {frames : List Bytes} :
    entries.mapM (fun entry => Frame.encode magic entry.1 entry.2) = .ok frames ↔
      (∀ entry ∈ entries, entry.2.length ≤ Frame.maxPayload) ∧ frames = framesOf magic entries := by
  induction entries generalizing frames with
  | nil => simp [framesOf, pure, Except.pure, eq_comm]
  | cons entry entries ih =>
    simp only [List.mapM_cons, List.forall_mem_cons, framesOf, List.map_cons]
    constructor
    · intro h
      cases hframe : Frame.encode magic entry.1 entry.2 with
      | error e => rw [hframe] at h; cases h
      | ok frame =>
        cases htail : entries.mapM (fun entry => Frame.encode magic entry.1 entry.2) with
        | error e => rw [hframe, htail] at h; cases h
        | ok tail =>
          rw [hframe, htail] at h
          cases h
          obtain ⟨hfits, rfl⟩ := Frame.encode_eq_ok_iff.1 hframe
          obtain ⟨hrest, rfl⟩ := ih.1 htail
          exact ⟨⟨hfits, hrest⟩, rfl⟩
    · rintro ⟨⟨hfits, hrest⟩, rfl⟩
      rw [Frame.encode_eq_ok_iff.2 ⟨hfits, rfl⟩, ih.2 ⟨hrest, rfl⟩]
      rfl

theorem le_offset {entries : List (RecordKind × Bytes)} {offset : Nat} {record : LogRecord}
    (h : record ∈ recordsFrom offset entries) : offset ≤ record.offset := by
  induction entries generalizing offset with
  | nil => cases h
  | cons entry entries ih =>
    rcases List.mem_cons.1 h with rfl | hmem
    · exact Nat.le_refl _
    · have := ih hmem
      omega

theorem lt_finish {entries : List (RecordKind × Bytes)} {offset : Nat} {record : LogRecord}
    (h : record ∈ recordsFrom offset entries) : offset < record.finish := by
  have := le_offset h
  simp only [LogRecord.finish, Frame.length, Frame.headerLength]
  omega

theorem recordsFrom_append (magic : Magic) (entries more : List (RecordKind × Bytes))
    (offset : Nat) :
    recordsFrom offset (entries ++ more) = recordsFrom offset entries ++
      recordsFrom (offset + (framesOf magic entries).flatten.length) more := by
  induction entries generalizing offset with
  | nil => rfl
  | cons entry entries ih =>
    obtain ⟨kind, payload⟩ := entry
    simp only [List.cons_append, recordsFrom, framesOf, List.map_cons, List.flatten_cons,
      List.length_append, Frame.length_toBytes, ← Nat.add_assoc]
    rw [ih]
    rfl

/-! ## A cut -/

/-- What is found in the first `k` bytes of the image of these entries: the records whose frames
are whole, and the rest as a torn one. -/
structure CutAt (offset : Nat) (entries : List (RecordKind × Bytes)) (k : Nat) (found : Scan) :
    Prop where
  records : found.records = (recordsFrom offset entries).filter (·.finish ≤ offset + k)
  validLength : found.validLength = found.records.getLast?.elim offset LogRecord.finish
  whole : offset + k = found.validLength → found.tornTail = none
  torn : offset + k ≠ found.validLength → ∃ reason,
    found.tornTail = some ⟨found.validLength, offset + k - found.validLength, reason⟩

theorem filter_finish_eq_nil {kind : RecordKind} {payload : Bytes}
    {entries : List (RecordKind × Bytes)} {offset k : Nat} (hk : k < Frame.length payload.length) :
    (recordsFrom offset ((kind, payload) :: entries)).filter (·.finish ≤ offset + k) = [] := by
  rw [List.filter_eq_nil_iff]
  intro record hmem
  have hlate : offset + k < record.finish := by
    rcases List.mem_cons.1 hmem with rfl | hmem
    · exact Nat.add_lt_add_left hk offset
    · have := lt_finish hmem
      omega
  simpa using hlate

theorem CutAt.behind {kind : RecordKind} {payload : Bytes} {entries : List (RecordKind × Bytes)}
    {offset k : Nat} {found : Scan}
    (h : CutAt (offset + Frame.length payload.length) entries k found) :
    CutAt offset ((kind, payload) :: entries) (Frame.length payload.length + k)
      (found.behind [⟨offset, kind, payload⟩]) := by
  have hsum : offset + (Frame.length payload.length + k) =
      offset + Frame.length payload.length + k := (Nat.add_assoc ..).symm
  refine ⟨?_, ?_, ?_, ?_⟩
  · have hwhole : LogRecord.finish ⟨offset, kind, payload⟩ ≤
        offset + Frame.length payload.length + k := Nat.le_add_right _ _
    rw [hsum, recordsFrom, List.filter_cons_of_pos (by simpa using hwhole), ← h.records]
    rfl
  · show found.validLength = _
    rw [h.validLength]
    simp only [Scan.behind, List.singleton_append, List.getLast?_cons]
    cases found.records.getLast? <;> rfl
  · rw [hsum]
    exact h.whole
  · rw [hsum]
    exact h.torn

/-- **A cut image scans** to the records in front of the cut. -/
theorem cutAt_take (format : LogFormat) {entries : List (RecordKind × Bytes)}
    (h : ∀ entry ∈ entries, entry.2.length ≤ Frame.maxPayload) (offset : Nat) {k : Nat}
    (hk : k ≤ (framesOf format.magic entries).flatten.length) :
    ∃ found, scanFrom format offset ((framesOf format.magic entries).flatten.take k) = .ok found ∧
      CutAt offset entries k found := by
  induction entries generalizing offset k with
  | nil =>
    obtain rfl : k = 0 := by simpa [framesOf] using hk
    exact ⟨_, (Walk.done offset).scanFrom_eq_ok, rfl, rfl, fun _ => rfl, fun hne => absurd rfl hne⟩
  | cons entry entries ih =>
    obtain ⟨kind, payload⟩ := entry
    have hpayload : payload.length ≤ Frame.maxPayload := h _ (List.mem_cons_self ..)
    have hlength := Frame.length_toBytes format.magic kind payload
    simp only [framesOf, List.map_cons, List.flatten_cons] at hk ⊢
    by_cases hpart : k < Frame.length payload.length
    · -- The cut is in this frame: at its front, or somewhere behind it.
      rw [List.take_append_of_le_length (by omega)]
      have hnone := @filter_finish_eq_nil kind payload entries offset k hpart
      by_cases hzero : k = 0
      · subst hzero
        exact ⟨_, (Walk.done offset).scanFrom_eq_ok, hnone.symm, rfl, fun _ => rfl,
          fun hne => absurd rfl hne⟩
      · have hlen : ((Frame.toBytes format.magic kind payload).take k).length = k := by
          rw [List.length_take]
          omega
        have hne : (Frame.toBytes format.magic kind payload).take k ≠ [] :=
          List.ne_nil_of_length_pos (by omega)
        obtain ⟨reason, hfront⟩ := @front_of_part kind payload format offset hpayload k hpart
        refine ⟨_, (Walk.torn hne hfront).scanFrom_eq_ok, hnone.symm, rfl, ?_, fun _ => ⟨reason, ?_⟩⟩
        · intro heq
          simp only at heq
          omega
        · rw [hlen]
          simp
    · -- The frame is whole, and the scan goes on behind it.
      rw [Nat.not_lt] at hpart
      obtain ⟨more, rfl⟩ := Nat.exists_eq_add_of_le hpart
      have hmore : more ≤ (framesOf format.magic entries).flatten.length := by
        rw [List.length_append, hlength] at hk
        exact Nat.add_le_add_iff_left.1 hk
      obtain ⟨found, hscan, hcut⟩ := ih (fun other hother => h other (List.mem_cons_of_mem _ hother))
        (offset + Frame.length payload.length) hmore
      refine ⟨_, ?_, hcut.behind⟩
      rw [← hlength, List.take_length_add_append,
        (walk_toBytes format offset hpayload).scanFrom_append rfl, hlength]
      exact congrArg (Except.map _) hscan

/-! ## The whole image -/

theorem scan_framesOf_append (format : LogFormat) {entries : List (RecordKind × Bytes)}
    (h : ∀ entry ∈ entries, entry.2.length ≤ Frame.maxPayload) (rest : Bytes) :
    scan format ((framesOf format.magic entries).flatten ++ rest) =
      (scanFrom format (framesOf format.magic entries).flatten.length rest).map
        (Scan.behind (recordsFrom 0 entries)) := by
  rw [scan, (walk_framesOf format h 0).scanFrom_append rfl, Nat.zero_add]

theorem scanFrom_of_all_zero (format : LogFormat) (offset : Nat) {rest : Bytes} (hrest : rest ≠ [])
    (hzero : rest.all (· = 0) = true) :
    scanFrom format offset rest = .ok ⟨[], offset, some ⟨offset, rest.length, .zeroFilled⟩⟩ := by
  refine (Walk.torn hrest ?_).scanFrom_eq_ok
  rw [front, if_pos hzero]

/-- **Scanning undoes framing and recovers every short cut.** The first `k` bytes of an image scan to
the records whose frames end there or before, and what is behind the last of them is the torn tail.
Zeros behind the whole image are the torn tail, however many they are. -/
theorem scan_cut (format : LogFormat) {entries : List (RecordKind × Bytes)}
    (hsize : ∀ entry ∈ entries, entry.2.length < UInt32.size) :
    ∃ frames, entries.mapM (fun entry => Frame.encode format.magic entry.1 entry.2) = .ok frames ∧
      (∀ k ≤ frames.flatten.length,
        ∃ found, scan format (frames.flatten.take k) = .ok found ∧
          found.records = (recordsFrom 0 entries).filter (·.finish ≤ k) ∧
          found.validLength = found.records.getLast?.elim 0 LogRecord.finish ∧
          (k = found.validLength → found.tornTail = none) ∧
          (k ≠ found.validLength → ∃ reason,
            found.tornTail = some ⟨found.validLength, k - found.validLength, reason⟩)) ∧
      ∀ n, 0 < n → scan format (frames.flatten ++ List.replicate n 0) =
        .ok ⟨recordsFrom 0 entries, frames.flatten.length,
          some ⟨frames.flatten.length, n, .zeroFilled⟩⟩ := by
  have hfits : ∀ entry ∈ entries, entry.2.length ≤ Frame.maxPayload :=
    fun entry hmem => Nat.le_of_lt_succ (hsize entry hmem)
  refine ⟨framesOf format.magic entries, mapM_encode_eq_ok_iff.2 ⟨hfits, rfl⟩, ?_, ?_⟩
  · intro k hk
    obtain ⟨found, hscan, hcut⟩ := cutAt_take format hfits 0 hk
    have hrecords := hcut.records
    have hwhole := hcut.whole
    have htorn := hcut.torn
    rw [Nat.zero_add] at hrecords hwhole htorn
    exact ⟨found, hscan, hrecords, hcut.validLength, hwhole, htorn⟩
  · intro n hn
    have hne : List.replicate n (0 : UInt8) ≠ [] := List.ne_nil_of_length_pos (by simpa using hn)
    rw [scan_framesOf_append format hfits, scanFrom_of_all_zero format _ hne (by simp)]
    simp [Except.map, Scan.behind]

/-- A record of two zero bytes and one without a payload, under a magic of zeros, cut in the second
frame's magic: the first record is whole. -/
theorem scan_cut_of_two_records :
    ∃ frames, [(RecordKind.push, ([0, 0] : Bytes)), (.enqueue, [])].mapM
        (fun entry => Frame.encode ⟨0, 0, 0, 0⟩ entry.1 entry.2) = .ok frames ∧
      ∃ found reason, scan ⟨⟨0, 0, 0, 0⟩, "test"⟩ (frames.flatten.take 20) = .ok found ∧
        found.records = [⟨0, .push, [0, 0]⟩] ∧ found.tornTail = some ⟨17, 3, reason⟩ := by
  obtain ⟨frames, hframes, hcut, -⟩ := @scan_cut ⟨⟨0, 0, 0, 0⟩, "test"⟩
    [(.push, [0, 0]), (.enqueue, [])] (by decide)
  refine ⟨frames, hframes, ?_⟩
  have hlen : 20 ≤ frames.flatten.length := by
    obtain ⟨-, rfl⟩ := mapM_encode_eq_ok_iff.1 hframes
    decide +kernel
  obtain ⟨found, hscan, hrecords, hvalid, -, htorn⟩ := hcut 20 hlen
  have hone : (recordsFrom 0 [(.push, [0, 0]), (.enqueue, [])]).filter (·.finish ≤ 20) =
      [⟨0, .push, [0, 0]⟩] := by decide
  rw [hone] at hrecords
  have hend : found.validLength = 17 := by
    rw [hvalid, hrecords]
    rfl
  rw [hend] at htorn
  obtain ⟨reason, htorn⟩ := htorn (by decide)
  exact ⟨found, reason, hscan, hrecords, htorn⟩

end Replica
