/-
What stands at the front of the rest of a log.

`Scan.Intact` says what makes a record out of bytes, field by field, and
`front_eq_record_iff` that the front is judged a record exactly then. An intact
front is a matter of the frame alone: bytes behind it neither make nor break it
(`Intact.of_take_eq`). A frame as it is written is intact (`intact_toBytes`).
-/
import Replica.Log.Scan
import Replica.Proofs.Checksum.Burst

namespace Replica

open Scan

namespace Scan

/-- The length of the frame at the front, as its length field has it. -/
def frameLength (rest : Bytes) : Nat := Frame.length (payloadLengthOf rest)

/-- The length of what the checksum of the frame at the front covers. -/
def coveredLength (rest : Bytes) : Nat := Frame.headerLength + payloadLengthOf rest

theorem frameLength_eq (rest : Bytes) : frameLength rest = coveredLength rest + 4 := rfl

/-- Whether the checksum stored in the frame at the front fits what it covers. -/
def Fits (rest : Bytes) : Prop :=
  storedChecksum rest (coveredLength rest) = checksum (rest.take (coveredLength rest))

instance (rest : Bytes) : Decidable (Fits rest) := inferInstanceAs (Decidable (_ = _))

/-- The payload of the frame at the front. -/
def payloadOf (rest : Bytes) : Bytes := (rest.take (coveredLength rest)).drop Frame.headerLength

/-- **An intact record** at the front of bytes that stand at `offset`. -/
structure Intact (format : LogFormat) (offset : Nat) (rest : Bytes) (record : LogRecord) : Prop where
  length_le : frameLength rest ≤ rest.length
  magic : rest.take 4 = format.magic.toBytes
  version : versionOf rest ≤ Frame.version
  kind : RecordKind.ofByte? (kindByteOf rest) = some record.kind
  fits : Fits rest
  offset_eq : record.offset = offset
  payload : record.payload = payloadOf rest

/-! ## What the checksum notices -/

/-- A checksum fits what it covers if the two together leave the residue. -/
theorem fits_iff_residue {rest : Bytes} (h : frameLength rest ≤ rest.length) :
    Fits rest ↔ (rest.take (frameLength rest)).foldl Checksum.absorbTable Checksum.start =
      Checksum.residue := by
  rw [frameLength_eq] at h ⊢
  have hstored : ((rest.drop (coveredLength rest)).take 4).length = 4 := by
    rw [List.length_take, List.length_drop]
    omega
  rw [List.take_add, Checksum.foldl_append_eq_residue_iff _ hstored]
  rfl

/-- **A checksum notices a burst**, in what it covers or in itself, as long as the length field says
where it stands. -/
theorem not_fits_of_burst {start : Nat} {rest rest' : Bytes} (hburst : AgreeOutside start rest rest')
    (hfits : Fits rest) (hlen : frameLength rest ≤ rest.length)
    (hlength : payloadLengthOf rest' = payloadLengthOf rest)
    (hne : rest'.take (frameLength rest) ≠ rest.take (frameLength rest)) : ¬ Fits rest' := by
  have hframe : frameLength rest' = frameLength rest := by rw [frameLength, frameLength, hlength]
  intro hfits'
  rw [fits_iff_residue hlen] at hfits
  rw [fits_iff_residue (by rw [hframe, ← hburst.length_eq]; exact hlen), hframe] at hfits'
  exact hne (Checksum.eq_of_foldl_eq (hburst.take _) (hfits.trans hfits'.symm)).symm

/-! ## Bytes that are all zero -/

theorem not_all_zero_of_getElem {rest : Bytes} {i : Nat} (hi : i < rest.length) (h : rest[i] ≠ 0) :
    rest.all (· = 0) = false := by
  rw [List.all_eq_false]
  exact ⟨rest[i], List.getElem_mem hi, by simpa using h⟩

theorem not_all_zero_of_kind {rest : Bytes} {kind : RecordKind}
    (h : RecordKind.ofByte? (kindByteOf rest) = some kind) : rest.all (· = 0) = false := by
  have hbyte := RecordKind.toByte_of_ofByte? h
  by_cases hlen : 6 < rest.length
  · have hget : kindByteOf rest = rest[6] := by simp [kindByteOf, hlen]
    refine not_all_zero_of_getElem hlen ?_
    rw [← hget, ← hbyte]
    cases kind <;> decide
  · have hzero : kindByteOf rest = 0 := by simp [kindByteOf, hlen]
    rw [hzero] at hbyte
    cases kind <;> simp [RecordKind.toByte] at hbyte

theorem not_all_zero_of_version {rest : Bytes} (h : versionOf rest ≠ 0) :
    rest.all (· = 0) = false := by
  rw [Bool.eq_false_iff]
  intro hzero
  refine h (fromLittleEndian_eq_zero fun b hb => ?_)
  simpa using List.all_eq_true.1 hzero b (List.mem_of_mem_drop (List.mem_of_mem_take hb))

/-! ## The front, judged -/

theorem headerLength_lt_frameLength (rest : Bytes) : Frame.headerLength < frameLength rest := by
  simp only [frameLength, Frame.length, Frame.checksumLength]
  omega

theorem isShorter_eq_false {rest : Bytes} {n : Nat} (h : n ≤ rest.length) :
    isShorter rest n = false := by
  rw [Bool.eq_false_iff, Ne, isShorter_iff]
  omega

theorem front_of_header {format : LogFormat} {offset : Nat} {rest : Bytes} {kind : RecordKind}
    (hlen : Frame.headerLength ≤ rest.length) (hmagic : rest.take 4 = format.magic.toBytes)
    (hversion : versionOf rest ≤ Frame.version)
    (hkind : RecordKind.ofByte? (kindByteOf rest) = some kind) :
    front format offset rest =
      if rest.length < frameLength rest then .torn .incompleteRecord
      else if Fits rest then .record ⟨offset, kind, payloadOf rest⟩
      else if rest.length = frameLength rest then .torn .badFinalChecksum
      else .damaged (.checksumMismatch offset (storedChecksum rest (coveredLength rest))
        (checksum (rest.take (coveredLength rest)))) := by
  unfold front
  rw [not_all_zero_of_kind hkind, isShorter_eq_false hlen, if_neg (by simp), if_neg (by simp),
    if_neg (by simpa using hmagic), if_neg (by omega), hkind]
  simp only [isShorter_iff]
  rfl

theorem front_eq_record_iff {format : LogFormat} {offset : Nat} {rest : Bytes} {record : LogRecord} :
    front format offset rest = .record record ↔ Intact format offset rest record := by
  constructor
  · intro h
    unfold front at h
    split at h
    · cases h
    split at h
    · cases h
    split at h
    · cases h
    rename_i hmagic
    split at h
    · cases h
    rename_i hversion
    split at h
    · cases h
    rename_i kind hkind
    split at h
    · cases h
    rename_i hlen
    rw [isShorter_iff, Nat.not_lt] at hlen
    dsimp only at h
    split at h
    · rename_i hfits
      cases h
      exact ⟨hlen, by simpa using hmagic, by omega, hkind, hfits, rfl, rfl⟩
    · split at h <;> cases h
  · intro h
    have hheader := headerLength_lt_frameLength rest
    have hlen := h.length_le
    rw [front_of_header (by omega) h.magic h.version h.kind, if_neg (by omega), if_pos h.fits,
      ← h.payload, ← h.offset_eq]

/-- Where the bytes reach past the end of the frame and the checksum does not fit, the front is
damaged, whatever else is wrong with it. -/
theorem front_damaged {format : LogFormat} {offset : Nat} {rest : Bytes}
    (hzero : rest.all (· = 0) = false) (hlen : frameLength rest < rest.length) (hfits : ¬ Fits rest) :
    ∃ error, front format offset rest = .damaged error := by
  have hheader := headerLength_lt_frameLength rest
  have hshort : isShorter rest Frame.headerLength = false := isShorter_eq_false (by omega)
  by_cases hmagic : rest.take 4 = format.magic.toBytes
  · by_cases hversion : Frame.version < versionOf rest
    · exact ⟨_, by rw [front, hzero, hshort, if_neg (by simp), if_neg (by simp),
        if_neg (by simpa using hmagic), if_pos hversion]⟩
    · cases hkind : RecordKind.ofByte? (kindByteOf rest) with
      | none => exact ⟨_, by rw [front, hzero, hshort, if_neg (by simp), if_neg (by simp),
          if_neg (by simpa using hmagic), if_neg hversion, hkind]⟩
      | some kind =>
        rw [front_of_header (by omega) hmagic (by omega) hkind, if_neg (by omega), if_neg hfits,
          if_neg (by omega)]
        exact ⟨_, rfl⟩
  · exact ⟨_, by rw [front, hzero, hshort, if_neg (by simp), if_neg (by simp), if_pos hmagic]⟩

theorem isCorruption_of_front {format : LogFormat} {offset : Nat} {rest : Bytes} {error : StoreError}
    (h : front format offset rest = .damaged error) : error.isCorruption = true := by
  unfold front at h
  split at h
  · cases h
  split at h
  · cases h
  split at h
  · cases h; rfl
  split at h
  · cases h; rfl
  split at h
  · cases h; rfl
  split at h
  · cases h
  dsimp only at h
  split at h
  · cases h
  split at h
  · cases h
  · cases h; rfl

/-! ## Only the frame counts -/

theorem kindByteOf_eq_of_take_eq {as bs : Bytes} {n : Nat} (h : as.take n = bs.take n) (hn : 7 ≤ n) :
    kindByteOf as = kindByteOf bs := by
  have hget (cs : Bytes) : kindByteOf cs = ((cs.drop 6).take 1).getD 0 0 := by
    simp [kindByteOf, List.getD_eq_getElem?_getD]
  rw [hget, hget, field_eq_of_take_eq h (by omega)]

theorem payloadLengthOf_eq_of_take_eq {as bs : Bytes} {n : Nat} (h : as.take n = bs.take n)
    (hn : 11 ≤ n) : payloadLengthOf as = payloadLengthOf bs := by
  rw [payloadLengthOf, payloadLengthOf, field_eq_of_take_eq h (by omega)]

theorem storedChecksum_field {as bs : Bytes} {covered : Nat} (hlen : as.length = bs.length)
    (h : storedChecksum as covered = storedChecksum bs covered) :
    (as.drop covered).take 4 = (bs.drop covered).take 4 := by
  have hsize (cs : Bytes) : fromLittleEndian ((cs.drop covered).take 4) < UInt32.size :=
    fromLittleEndian_take_lt (cs.drop covered) 4
  have hnat := congrArg UInt32.toNat h
  rw [storedChecksum, storedChecksum, UInt32.toNat_ofNat_of_lt' (hsize _),
    UInt32.toNat_ofNat_of_lt' (hsize _)] at hnat
  exact fromLittleEndian_injective (by simp [hlen]) hnat

theorem Intact.of_take_eq {format : LogFormat} {offset : Nat} {rest rest' : Bytes}
    {record : LogRecord} (h : Intact format offset rest record)
    (heq : rest'.take (frameLength rest) = rest.take (frameLength rest)) :
    Intact format offset rest' record := by
  have hheader := headerLength_lt_frameLength rest
  rw [Frame.headerLength] at hheader
  have hpayload : payloadLengthOf rest' = payloadLengthOf rest :=
    payloadLengthOf_eq_of_take_eq heq (by omega)
  have hframe : frameLength rest' = frameLength rest := by rw [frameLength, frameLength, hpayload]
  have hcovered : coveredLength rest' = coveredLength rest := by
    rw [coveredLength, coveredLength, hpayload]
  have hle := frameLength_eq rest
  have htake : rest'.take (coveredLength rest) = rest.take (coveredLength rest) :=
    take_eq_take_of_le heq (by omega)
  refine ⟨?_, ?_, ?_, ?_, ?_, h.offset_eq, ?_⟩
  · have hlen := congrArg List.length heq
    simp only [List.length_take, Nat.min_eq_left h.length_le] at hlen
    omega
  · rw [take_eq_take_of_le heq (by omega), h.magic]
  · rw [versionOf, field_eq_of_take_eq heq (by omega)]
    exact h.version
  · rw [kindByteOf_eq_of_take_eq heq (by omega), h.kind]
  · rw [Fits, hcovered, htake, storedChecksum, field_eq_of_take_eq heq (by omega)]
    exact h.fits
  · rw [h.payload, payloadOf, payloadOf, hcovered, htake]

theorem Intact.length_payload {format : LogFormat} {offset : Nat} {rest : Bytes}
    {record : LogRecord} (h : Intact format offset rest record) :
    Frame.length record.payload.length = frameLength rest := by
  have hlen := h.length_le
  rw [frameLength_eq] at hlen
  have hcovered : (rest.take (coveredLength rest)).length = coveredLength rest := by
    rw [List.length_take]
    omega
  rw [h.payload, payloadOf, List.length_drop, hcovered, coveredLength, Nat.add_sub_cancel_left]
  rfl

theorem Intact.payload_le {format : LogFormat} {offset : Nat} {rest : Bytes} {record : LogRecord}
    (h : Intact format offset rest record) : record.payload.length ≤ Frame.maxPayload := by
  have hlen := h.length_payload
  have hlt := fromLittleEndian_take_lt (rest.drop 7) 4
  simp only [frameLength, Frame.length, payloadLengthOf] at hlen
  simp only [capacity] at hlt
  simp only [Frame.maxPayload]
  omega

end Scan

/-! ## Frames as they are written -/

namespace Frame

theorem length_body (magic : Magic) (kind : RecordKind) (payload : Bytes) :
    (body magic kind payload).length = headerLength + payload.length := by
  simp [body, Magic.toBytes, headerLength]
  omega

theorem length_toBytes (magic : Magic) (kind : RecordKind) (payload : Bytes) :
    (toBytes magic kind payload).length = length payload.length := by
  simp [toBytes, length_body, length, checksumLength]

end Frame

namespace Scan

variable (magic : Magic) (kind : RecordKind) (payload more : Bytes)

theorem versionOf_toBytes : versionOf (Frame.toBytes magic kind payload ++ more) = Frame.version := by
  have hfield : fromLittleEndian (littleEndian 2 Frame.version) = Frame.version := by decide
  simpa [versionOf, Frame.toBytes, Frame.body, Magic.toBytes] using hfield

theorem kindByteOf_toBytes : kindByteOf (Frame.toBytes magic kind payload ++ more) = kind.toByte := by
  simp [kindByteOf, Frame.toBytes, Frame.body, Magic.toBytes]

theorem payloadLengthOf_toBytes (h : payload.length ≤ Frame.maxPayload) :
    payloadLengthOf (Frame.toBytes magic kind payload ++ more) = payload.length := by
  have hfield : payload.length < capacity 4 := by
    rw [Frame.maxPayload] at h
    simp only [capacity]
    omega
  have hparts : Frame.toBytes magic kind payload ++ more =
      (magic.toBytes ++ littleEndian 2 Frame.version ++ [kind.toByte]) ++
        (littleEndian 4 payload.length ++ (payload ++
          (littleEndian 4 (checksum (Frame.body magic kind payload)).toNat ++ more))) := by
    simp [Frame.toBytes, Frame.body]
  rw [payloadLengthOf, hparts, List.drop_left' (by simp [Magic.toBytes]),
    List.take_left' (length_littleEndian 4 _), fromLittleEndian_littleEndian hfield]

theorem take_body_toBytes :
    (Frame.toBytes magic kind payload ++ more).take (Frame.headerLength + payload.length) =
      Frame.body magic kind payload := by
  rw [Frame.toBytes, List.append_assoc, List.take_left' (Frame.length_body magic kind payload)]

theorem storedChecksum_toBytes :
    storedChecksum (Frame.toBytes magic kind payload ++ more) (Frame.headerLength + payload.length) =
      checksum (Frame.body magic kind payload) := by
  rw [storedChecksum, Frame.toBytes, List.append_assoc,
    List.drop_left' (Frame.length_body magic kind payload), List.take_left' (length_littleEndian 4 _),
    fromLittleEndian_littleEndian (UInt32.toNat_lt _), UInt32.ofNat_toNat]

theorem intact_toBytes (format : LogFormat) (offset : Nat) {kind : RecordKind} {payload : Bytes}
    (h : payload.length ≤ Frame.maxPayload) (more : Bytes) :
    Intact format offset (Frame.toBytes format.magic kind payload ++ more)
      ⟨offset, kind, payload⟩ := by
  have hpayload := payloadLengthOf_toBytes format.magic kind payload more h
  have hcovered : coveredLength (Frame.toBytes format.magic kind payload ++ more) =
      Frame.headerLength + payload.length := by rw [coveredLength, hpayload]
  refine ⟨?_, ?_, ?_, ?_, ?_, rfl, ?_⟩
  · rw [frameLength, hpayload, List.length_append, Frame.length_toBytes]
    omega
  · simp [Frame.toBytes, Frame.body, Magic.toBytes]
  · exact Nat.le_of_eq (versionOf_toBytes format.magic kind payload more)
  · rw [kindByteOf_toBytes, RecordKind.ofByte?_toByte]
  · rw [Fits, hcovered, storedChecksum_toBytes, take_body_toBytes]
  · rw [payloadOf, hcovered, take_body_toBytes, Frame.body, List.drop_left']
    simp [Magic.toBytes, Frame.headerLength]

/-! ## Parts of a frame -/

variable {magic kind payload} in
/-- **A frame that was written in part** is torn: its header is missing, or tells that its end is. -/
theorem front_of_part (format : LogFormat) (offset : Nat) (h : payload.length ≤ Frame.maxPayload)
    {n : Nat} (hpart : n < Frame.length payload.length) :
    ∃ reason, front format offset ((Frame.toBytes format.magic kind payload).take n) =
      .torn reason := by
  have hwhole := @intact_toBytes format offset kind payload h []
  rw [List.append_nil] at hwhole
  generalize hframe : Frame.toBytes format.magic kind payload = frame at hwhole ⊢
  have hlen : (frame.take n).length = n := by
    rw [← hframe, List.length_take, Frame.length_toBytes]
    omega
  by_cases hheader : Frame.headerLength ≤ n
  · have htake : (frame.take n).take n = frame.take n := List.take_of_length_le (by omega)
    rw [Frame.headerLength] at hheader
    have hmagic : (frame.take n).take 4 = format.magic.toBytes := by
      rw [take_eq_take_of_le htake (by omega), hwhole.magic]
    have hversion : versionOf (frame.take n) ≤ Frame.version := by
      rw [versionOf, field_eq_of_take_eq htake (by omega)]
      exact hwhole.version
    have hkind : RecordKind.ofByte? (kindByteOf (frame.take n)) = some kind := by
      rw [kindByteOf_eq_of_take_eq htake (by omega), hwhole.kind]
    have hpayload : frameLength (frame.take n) = Frame.length payload.length := by
      rw [frameLength, payloadLengthOf_eq_of_take_eq htake (by omega), ← frameLength,
        ← hwhole.length_payload]
    refine ⟨.incompleteRecord, ?_⟩
    rw [front_of_header (by rw [hlen]; exact hheader) hmagic hversion hkind, if_pos (by omega)]
  · by_cases hzero : (frame.take n).all (· = 0) = true
    · exact ⟨.zeroFilled, by rw [front, if_pos hzero]⟩
    · refine ⟨.incompleteHeader, ?_⟩
      rw [front, if_neg hzero, if_pos ((isShorter_iff _ _).2 (by omega))]

end Scan
end Replica
