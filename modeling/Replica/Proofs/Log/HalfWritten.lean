/-
A frame of which only the front reached the file.

A crash may leave a file with its new length and the last bytes still zero
(`halfWritten`). What a scan makes of that depends on where the bytes stop. With
nothing but zeros it is a torn tail. In front of the kind byte the header is
damaged. In the length field it may say a length that is too small, and then the
frame seems to end in front of the end of the file (`front_halfWritten`). Only
where the missing bytes of the length field are zeros anyway is the frame judged
by its checksum, and that is wrong unless it happens to be zero.

`half_written_scan_iff` says which half-written frames a scan recovers from.
-/
import Replica.Proofs.Log.Cut
import Replica.Proofs.Log.Damage

namespace Replica

open Scan

/-- A frame with only its first `k` bytes written, and zeros for the others. -/
def halfWritten (frame : Bytes) (k : Nat) : Bytes :=
  frame.take k ++ List.replicate (frame.length - k) 0

/-! ## Fields with zeros in them -/

theorem fromLittleEndian_take (bs : Bytes) (n : Nat) :
    fromLittleEndian (bs.take n) = fromLittleEndian bs % capacity n := by
  induction bs generalizing n with
  | nil => simp [fromLittleEndian]
  | cons b bs ih =>
    cases n with
    | zero => simp [fromLittleEndian, capacity, Nat.mod_one]
    | succ n =>
      rw [capacity, Nat.mod_mul, fromLittleEndian_cons_mod, fromLittleEndian_cons_div, ← ih]
      rfl

theorem fromLittleEndian_append_zeros (bs : Bytes) (n : Nat) :
    fromLittleEndian (bs ++ List.replicate n 0) = fromLittleEndian bs := by
  induction bs with
  | nil =>
    exact fromLittleEndian_eq_zero fun b hb => (List.mem_replicate.1 hb).2
  | cons b bs ih => simp only [List.cons_append, fromLittleEndian, ih]

section

variable {frame : Bytes} {k : Nat}

theorem length_halfWritten (hk : k ≤ frame.length) : (halfWritten frame k).length = frame.length := by
  simp only [halfWritten, List.length_append, List.length_take, List.length_replicate]
  omega

theorem take_halfWritten (hk : k ≤ frame.length) : (halfWritten frame k).take k = frame.take k := by
  rw [halfWritten, List.take_left' (by rw [List.length_take]; omega)]

theorem field_halfWritten {start size : Nat} (hk : k ≤ frame.length)
    (hfield : start + size ≤ frame.length) :
    ((halfWritten frame k).drop start).take size =
      ((frame.drop start).take size).take (k - start) ++ List.replicate (size - (k - start)) 0 := by
  have hlen : (frame.take k).length = k := by
    rw [List.length_take]
    omega
  by_cases hstart : start ≤ k
  · rw [halfWritten, List.drop_append_of_le_length (by omega), List.drop_take, List.take_append,
      List.take_take, List.take_take, Nat.min_comm, List.length_take, List.length_drop,
      List.take_replicate]
    congr 2
    omega
  · have hnone : k - start = 0 := by omega
    rw [halfWritten, List.drop_append, List.drop_eq_nil_of_le (by omega), hlen, hnone,
      List.take_zero, List.nil_append, List.nil_append, List.drop_replicate, List.take_replicate]
    congr 1
    omega

theorem kindByteOf_halfWritten (hk : k < 7) : kindByteOf (halfWritten frame k) = 0 := by
  have hlate : ¬ 6 < (frame.take k).length := by
    rw [List.length_take]
    omega
  rw [kindByteOf, List.getD_eq_getElem?_getD, halfWritten, List.getElem?_append_right (by omega),
    List.getElem?_replicate]
  split <;> rfl

theorem storedChecksum_halfWritten {covered : Nat} (hk : k ≤ covered)
    (hlen : covered + 4 ≤ frame.length) : storedChecksum (halfWritten frame k) covered = 0 := by
  have hnone : k - covered = 0 := Nat.sub_eq_zero_of_le hk
  rw [storedChecksum, field_halfWritten (by omega) hlen, hnone, List.take_zero, List.nil_append,
    fromLittleEndian_eq_zero fun b hb => (List.mem_replicate.1 hb).2]
  rfl

end

/-! ## The front of a half-written frame -/

theorem front_damaged_of_kind {format : LogFormat} {offset : Nat} {rest : Bytes}
    (hzero : rest.all (· = 0) = false) (hlen : Frame.headerLength ≤ rest.length)
    (hkind : RecordKind.ofByte? (kindByteOf rest) = none) :
    ∃ error, front format offset rest = .damaged error := by
  have hshort := isShorter_eq_false hlen
  by_cases hmagic : rest.take 4 = format.magic.toBytes
  · by_cases hversion : Frame.version < versionOf rest
    · exact ⟨_, by rw [front, hzero, hshort, if_neg (by simp), if_neg (by simp),
        if_neg (by simpa using hmagic), if_pos hversion]⟩
    · exact ⟨_, by rw [front, hzero, hshort, if_neg (by simp), if_neg (by simp),
        if_neg (by simpa using hmagic), if_neg hversion, hkind]⟩
  · exact ⟨_, by rw [front, hzero, hshort, if_neg (by simp), if_neg (by simp), if_pos hmagic]⟩

section

variable {format : LogFormat} {kind : RecordKind} {payload : Bytes} {k : Nat}

theorem payloadLengthOf_halfWritten (h : payload.length ≤ Frame.maxPayload)
    (hk : k ≤ (Frame.toBytes format.magic kind payload).length) :
    payloadLengthOf (halfWritten (Frame.toBytes format.magic kind payload) k) =
      payload.length % capacity (k - 7) := by
  have hwhole := payloadLengthOf_toBytes format.magic kind payload [] h
  rw [List.append_nil] at hwhole
  have hlen : 7 + 4 ≤ (Frame.toBytes format.magic kind payload).length := by
    rw [Frame.length_toBytes, Frame.length, Frame.headerLength]
    omega
  rw [payloadLengthOf, field_halfWritten hk hlen, fromLittleEndian_append_zeros,
    fromLittleEndian_take, ← payloadLengthOf, hwhole]

/-- Whether the missing bytes of the length field are zeros anyway. -/
theorem payloadLengthOf_halfWritten_eq_iff (h : payload.length ≤ Frame.maxPayload)
    (hk : k ≤ (Frame.toBytes format.magic kind payload).length) :
    payloadLengthOf (halfWritten (Frame.toBytes format.magic kind payload) k) = payload.length ↔
      payload.length < capacity (k - 7) := by
  rw [payloadLengthOf_halfWritten h hk]
  have hpos : 0 < capacity (k - 7) := Nat.lt_of_lt_of_le Nat.one_pos
    (capacity_le_capacity (Nat.zero_le (k - 7)))
  constructor
  · intro heq
    have hlt := Nat.mod_lt payload.length hpos
    omega
  · exact Nat.mod_eq_of_lt

/-- Behind the kind byte a half-written frame is judged by its length field and its checksum. -/
theorem front_halfWritten (offset : Nat) (h : payload.length ≤ Frame.maxPayload)
    (hk : k ≤ (Frame.toBytes format.magic kind payload).length) (hkind : 7 ≤ k) :
    let rest := halfWritten (Frame.toBytes format.magic kind payload) k
    front format offset rest =
      if Fits rest then .record ⟨offset, kind, payloadOf rest⟩
      else if payload.length < capacity (k - 7) then .torn .badFinalChecksum
      else .damaged (.checksumMismatch offset (storedChecksum rest (coveredLength rest))
        (checksum (rest.take (coveredLength rest)))) := by
  intro rest
  have hintact := @intact_toBytes format offset kind payload h []
  rw [List.append_nil] at hintact
  have htake : rest.take k = (Frame.toBytes format.magic kind payload).take k := take_halfWritten hk
  have hlength : rest.length = Frame.length payload.length := by
    rw [length_halfWritten hk, Frame.length_toBytes]
  have hfield := @payloadLengthOf_halfWritten_eq_iff format kind payload k h hk
  have hle : payloadLengthOf rest ≤ payload.length := by
    show payloadLengthOf (halfWritten _ k) ≤ _
    rw [payloadLengthOf_halfWritten h hk]
    exact Nat.mod_le _ _
  have hframe : frameLength rest ≤ rest.length := by
    rw [hlength, frameLength, Frame.length, Frame.length]
    omega
  have hend : rest.length = frameLength rest ↔ payload.length < capacity (k - 7) := by
    rw [hlength, frameLength, Frame.length, Frame.length, ← hfield]
    show _ ↔ payloadLengthOf rest = _
    omega
  have hheader := headerLength_lt_frameLength rest
  rw [@front_of_header format offset rest kind (by omega), if_neg (by omega)]
  · simp only [hend]
  · rw [take_eq_take_of_le htake (by omega), hintact.magic]
  · rw [versionOf, field_eq_of_take_eq htake (by omega)]
    exact hintact.version
  · rw [kindByteOf_eq_of_take_eq htake hkind]
    exact hintact.kind

/-- With its length field whole, a half-written frame has a checksum that fits only if nothing of the
checksum was written and zero is what it should be. -/
theorem fits_halfWritten_iff (h : payload.length ≤ Frame.maxPayload)
    (hk : k ≤ (Frame.toBytes format.magic kind payload).length)
    (hlength : payload.length < capacity (k - 7))
    (hne : halfWritten (Frame.toBytes format.magic kind payload) k ≠
      Frame.toBytes format.magic kind payload) :
    Fits (halfWritten (Frame.toBytes format.magic kind payload) k) ↔
      k < Frame.headerLength + payload.length ∧
        checksum ((halfWritten (Frame.toBytes format.magic kind payload) k).take
          (Frame.headerLength + payload.length)) = 0 := by
  have hcovered : coveredLength (halfWritten (Frame.toBytes format.magic kind payload) k) =
      Frame.headerLength + payload.length := by
    rw [coveredLength, (payloadLengthOf_halfWritten_eq_iff h hk).2 hlength]
  have hframe : (Frame.toBytes format.magic kind payload).length =
      Frame.headerLength + payload.length + 4 := Frame.length_toBytes ..
  rw [Fits, hcovered]
  by_cases hpart : k < Frame.headerLength + payload.length
  · rw [storedChecksum_halfWritten (Nat.le_of_lt hpart) (by omega)]
    exact ⟨fun heq => ⟨hpart, heq.symm⟩, fun heq => heq.2.symm⟩
  · refine ⟨fun hfits => absurd ?_ hne, fun heq => absurd heq.1 hpart⟩
    -- The covered part was written, so the checksum that fits is the one of the frame.
    have hbody := take_eq_take_of_le (take_halfWritten hk) (Nat.le_of_not_lt hpart)
    have hwhole := storedChecksum_toBytes format.magic kind payload []
    have hcover := take_body_toBytes format.magic kind payload []
    rw [List.append_nil] at hwhole hcover
    rw [hbody, hcover, ← hwhole] at hfits
    have hfield := storedChecksum_field (length_halfWritten hk) hfits
    have hlast := length_halfWritten hk
    rw [List.take_of_length_le (by rw [List.length_drop]; omega),
      List.take_of_length_le (by rw [List.length_drop]; omega)] at hfield
    rw [← List.take_append_drop (Frame.headerLength + payload.length) (halfWritten _ k), hbody, hfield,
      List.take_append_drop]

/-- **Whether a scan recovers from a half-written frame**: all of it was there, or nothing but
zeros, or its kind and its length field were and the zeros do not happen to fit as its checksum. -/
def Recoverable (frame payload : Bytes) (k : Nat) : Prop :=
  halfWritten frame k = frame ∨ (halfWritten frame k).all (· = 0) = true ∨
    7 ≤ k ∧ payload.length < capacity (k - 7) ∧
      ¬ (k < Frame.headerLength + payload.length ∧
        checksum ((halfWritten frame k).take (Frame.headerLength + payload.length)) = 0)

instance (frame payload : Bytes) (k : Nat) : Decidable (Recoverable frame payload k) :=
  inferInstanceAs (Decidable (_ ∨ _ ∨ _))

theorem front_halfWritten_torn_iff (offset : Nat) (h : payload.length ≤ Frame.maxPayload)
    (hk : k ≤ (Frame.toBytes format.magic kind payload).length)
    (hne : halfWritten (Frame.toBytes format.magic kind payload) k ≠
      Frame.toBytes format.magic kind payload) :
    (∃ reason, front format offset (halfWritten (Frame.toBytes format.magic kind payload) k) =
        .torn reason) ↔
      Recoverable (Frame.toBytes format.magic kind payload) payload k := by
  have hfits (hlength : payload.length < capacity (k - 7)) := fits_halfWritten_iff h hk hlength hne
  have hlong : Frame.headerLength ≤ (halfWritten (Frame.toBytes format.magic kind payload) k).length := by
    rw [length_halfWritten hk, Frame.length_toBytes, Frame.length]
    omega
  cases hzero : (halfWritten (Frame.toBytes format.magic kind payload) k).all (· = 0) with
  | true => exact ⟨fun _ => .inr (.inl hzero), fun _ => ⟨.zeroFilled, by rw [front, if_pos hzero]⟩⟩
  | false =>
    simp only [Recoverable, hne, hzero, Bool.false_eq_true, false_or]
    by_cases hkind : 7 ≤ k
    · rw [front_halfWritten offset h hk hkind]
      by_cases hfield : payload.length < capacity (k - 7)
      · rw [← hfits hfield, if_pos hfield]
        by_cases hsum : Fits (halfWritten (Frame.toBytes format.magic kind payload) k)
        · simp [hsum]
        · simp [hsum, hkind, hfield]
      · rw [if_neg hfield]
        split <;> simp [hfield]
    · -- Nothing was written of the kind.
      have hnone : RecordKind.ofByte?
          (kindByteOf (halfWritten (Frame.toBytes format.magic kind payload) k)) = none := by
        rw [kindByteOf_halfWritten (by omega)]
        rfl
      obtain ⟨error, hfront⟩ := @front_damaged_of_kind format offset _ hzero hlong hnone
      simp [hfront, hkind]

end

/-! ## The scan -/

section

variable {format : LogFormat} {entries : List (RecordKind × Bytes)} {rest : Bytes}

theorem scan_framesOf_append_of_torn
    (h : ∀ entry ∈ entries, entry.2.length ≤ Frame.maxPayload) (hrest : rest ≠ [])
    {reason : TornReason}
    (hfront : front format (framesOf format.magic entries).flatten.length rest = .torn reason) :
    scan format ((framesOf format.magic entries).flatten ++ rest) =
      .ok ⟨recordsFrom 0 entries, (framesOf format.magic entries).flatten.length,
        some ⟨(framesOf format.magic entries).flatten.length, rest.length, reason⟩⟩ := by
  rw [scan_framesOf_append format h, (Walk.torn hrest hfront).scanFrom_eq_ok]
  simp [Except.map, Scan.behind]

theorem scan_framesOf_append_of_damaged
    (h : ∀ entry ∈ entries, entry.2.length ≤ Frame.maxPayload) (hrest : rest ≠ [])
    {error : StoreError}
    (hfront : front format (framesOf format.magic entries).flatten.length rest = .damaged error) :
    scan format ((framesOf format.magic entries).flatten ++ rest) = .error error := by
  rw [scan_framesOf_append format h, scanFrom_eq, if_neg hrest, hfront]
  rfl

theorem front_torn_of_scan
    (h : ∀ entry ∈ entries, entry.2.length ≤ Frame.maxPayload) (hrest : rest ≠ []) {found : Scan}
    (hscan : scan format ((framesOf format.magic entries).flatten ++ rest) = .ok found)
    (hrecords : found.records = recordsFrom 0 entries) :
    ∃ reason, front format (framesOf format.magic entries).flatten.length rest = .torn reason := by
  rw [scan_framesOf_append format h] at hscan
  cases htail : scanFrom format (framesOf format.magic entries).flatten.length rest with
  | error e => rw [htail] at hscan; cases hscan
  | ok tail =>
    rw [htail] at hscan
    cases hscan
    have hnone : tail.records = [] := by simpa [Scan.behind] using hrecords
    cases scanFrom_eq_ok_iff.1 htail with
    | done => exact absurd rfl hrest
    | torn _ hfront => exact ⟨_, hfront⟩
    | record => simp [Scan.behind] at hnone

end

/-- **A half-written frame behind whole ones.** Where the frame is recoverable, the scan gives the
records of the whole frames, and its own if it is whole too, and everything behind them is the torn
tail. Elsewhere that is not so: the scan fails with a corruption error, or the front of the
half-written frame happens to make an intact record. -/
theorem half_written_scan_iff (format : LogFormat) {entries : List (RecordKind × Bytes)}
    {frames : List Bytes}
    (hframes : entries.mapM (fun entry => Frame.encode format.magic entry.1 entry.2) = .ok frames)
    {kind : RecordKind} {payload frame : Bytes}
    (hframe : Frame.encode format.magic kind payload = .ok frame) {k : Nat} (hk : k ≤ frame.length) :
    let rest := halfWritten frame k
    let scanned := scan format (frames.flatten ++ rest)
    ((∃ found, scanned = .ok found ∧
        if rest = frame
        then found.records = recordsFrom 0 (entries ++ [(kind, payload)]) ∧ found.tornTail = none
        else found.records = recordsFrom 0 entries ∧
          ∃ reason, found.tornTail = some ⟨frames.flatten.length, rest.length, reason⟩) ↔
      Recoverable frame payload k) ∧
    (¬ Recoverable frame payload k →
      (∃ error, scanned = .error error ∧ error.isCorruption = true) ∨
        ∃ record, Intact format frames.flatten.length rest record) := by
  obtain ⟨hentries, rfl⟩ := mapM_encode_eq_ok_iff.1 hframes
  obtain ⟨hpayload, rfl⟩ := Frame.encode_eq_ok_iff.1 hframe
  intro rest scanned
  have hrest : rest ≠ [] := by
    refine List.ne_nil_of_length_pos ?_
    rw [length_halfWritten hk, Frame.length_toBytes, Frame.length, Frame.headerLength]
    omega
  by_cases hwhole : rest = Frame.toBytes format.magic kind payload
  · -- All of the frame is there, and its record is one more.
    have hrecover : Recoverable (Frame.toBytes format.magic kind payload) payload k := .inl hwhole
    have hscanned : scanned = .ok ⟨recordsFrom 0 (entries ++ [(kind, payload)]),
        (framesOf format.magic entries).flatten.length + Frame.length payload.length, none⟩ := by
      show scan format (_ ++ rest) = _
      rw [scan_framesOf_append format hentries, hwhole, (walk_toBytes format _ hpayload).scanFrom_eq_ok,
        recordsFrom_append format.magic, Nat.zero_add]
      rfl
    exact ⟨iff_of_true ⟨_, hscanned, by rw [if_pos hwhole]; exact ⟨rfl, rfl⟩⟩ hrecover,
      fun hnot => absurd hrecover hnot⟩
  · have htorn := @front_halfWritten_torn_iff format kind payload k
      (framesOf format.magic entries).flatten.length hpayload hk hwhole
    simp only [if_neg hwhole, ← htorn]
    refine ⟨⟨?_, ?_⟩, ?_⟩
    · rintro ⟨found, hscan, hrecords, -⟩
      exact front_torn_of_scan hentries hrest hscan hrecords
    · rintro ⟨reason, hfront⟩
      exact ⟨_, scan_framesOf_append_of_torn hentries hrest hfront, rfl, reason, rfl⟩
    · intro hnot
      cases hfront : front format (framesOf format.magic entries).flatten.length rest with
      | torn reason => exact absurd ⟨reason, hfront⟩ hnot
      | record record => exact .inr ⟨record, front_eq_record_iff.1 hfront⟩
      | damaged error =>
        exact .inl ⟨error, scan_framesOf_append_of_damaged hentries hrest hfront,
          isCorruption_of_front hfront⟩

/-- A frame cut behind its length field is recovered: the record before it is all there is. -/
theorem half_written_behind_length_field :
    Frame.encode pushFormat.magic .push [7] = .ok (Frame.toBytes pushFormat.magic .push [7]) ∧
      ∃ found reason,
        scan pushFormat (pushFrame ++ halfWritten (Frame.toBytes pushFormat.magic .push [7]) 11) =
            .ok found ∧
          found.records = [⟨0, .push, []⟩] ∧ found.tornTail = some ⟨15, 16, reason⟩ := by
  have h := (@half_written_scan_iff pushFormat [(.push, [])] [pushFrame] rfl .push [7] _ rfl 11
    (by decide)).1.2 (by decide +kernel)
  obtain ⟨found, hscan, h⟩ := h
  rw [if_neg (by decide +kernel)] at h
  obtain ⟨hrecords, reason, htorn⟩ := h
  exact ⟨rfl, found, reason, hscan, hrecords, htorn⟩

/-- A frame cut behind its magic is not recovered: the scan fails on a kind that was never
written. -/
theorem half_written_behind_magic :
    Frame.IsFrame pushFormat.magic pushFrame ∧ 4 ≤ pushFrame.length ∧
      scan pushFormat (pushFrame ++ halfWritten pushFrame 4) =
        .error (.corrupted "test" (.unknownKind 0 15)) := by
  refine ⟨isFrame_pushFrame, by decide, ?_⟩
  have hfront : front pushFormat 15 (halfWritten pushFrame 4) =
      .damaged (.corrupted "test" (.unknownKind 0 15)) := by decide
  have hscan := @scan_framesOf_append pushFormat [(.push, [])] (by simp) (halfWritten pushFrame 4)
  rw [scanFrom_eq, if_neg (by decide)] at hscan
  have hoffset : (framesOf pushFormat.magic [(.push, [])]).flatten.length = 15 := by decide
  rw [hoffset, hfront] at hscan
  simpa [framesOf, pushFrame, pushFormat, Except.map] using hscan

end Replica
