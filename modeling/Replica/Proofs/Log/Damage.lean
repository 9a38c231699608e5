/-
A damaged byte in front of the end of a log.

The bytes behind the damaged frame tell damage from a torn record, as long as
the length field still says where the frame ends: then the checksum cannot fit
(`not_fits_set`), and the front is judged damaged whatever else the byte was part
of. The length field itself is not protected that way. A length that reaches the
end of the log, or past it, makes everything from there on one torn record, and
a length that meets a fitting checksum by chance makes another record. Both are
`MistakenLength`, and `damage_before_end` says that nothing else goes unnoticed.
-/
import Replica.Proofs.Log

namespace Replica

open Scan

/-! ## A frame with another byte in it -/

namespace Scan

/-- Whether a byte of the length field has this index. -/
def InLengthField (i : Nat) : Prop := 7 ≤ i ∧ i < 11

instance (i : Nat) : Decidable (InLengthField i) := inferInstanceAs (Decidable (_ ∧ _))

theorem take_set_of_le {bs : Bytes} {i n : Nat} (b : UInt8) (h : n ≤ i) :
    (bs.set i b).take n = bs.take n := by
  rw [List.take_set, List.set_eq_of_length_le]
  rw [List.length_take]
  omega

theorem field_set_of_not_mem {bs : Bytes} {i start size : Nat} (b : UInt8)
    (h : i < start ∨ start + size ≤ i) :
    ((bs.set i b).drop start).take size = (bs.drop start).take size := by
  rcases h with h | h
  · rw [List.drop_set_of_lt h]
  · rw [List.drop_set, if_neg (by omega), take_set_of_le b (by omega)]

theorem kindByteOf_set {bs : Bytes} {i : Nat} (b : UInt8) (h : i ≠ 6) :
    kindByteOf (bs.set i b) = kindByteOf bs := by
  simp [kindByteOf, List.getD_eq_getElem?_getD, List.getElem?_set_ne h]

theorem payloadLengthOf_set {bs : Bytes} {i : Nat} (b : UInt8) (h : ¬ InLengthField i) :
    payloadLengthOf (bs.set i b) = payloadLengthOf bs := by
  unfold InLengthField at h
  rw [payloadLengthOf, payloadLengthOf, field_set_of_not_mem b (by omega)]

theorem frameLength_set {bs : Bytes} {i : Nat} (b : UInt8) (h : ¬ InLengthField i) :
    frameLength (bs.set i b) = frameLength bs := by
  rw [frameLength, frameLength, payloadLengthOf_set b h]

/-- **A checksum notices one byte**, in what it covers or in itself, as long as the length field says
where it stands. -/
theorem not_fits_set {bs : Bytes} {i : Nat} {b : UInt8} (hfits : Fits bs)
    (hlen : frameLength bs ≤ bs.length) (hi : i < frameLength bs)
    (hb : b ≠ bs[i]) (hfield : ¬ InLengthField i) : ¬ Fits (bs.set i b) := by
  have hburst := (AgreeOutside.refl i bs).set b (Nat.le_refl i) (by omega)
  refine not_fits_of_burst hburst hfits hlen (payloadLengthOf_set b hfield) fun h => ?_
  have hget := congrArg (·[i]?) h
  simp only [List.getElem?_take, if_pos hi] at hget
  rw [List.getElem?_set_self (by omega), List.getElem?_eq_getElem (by omega)] at hget
  exact hb (Option.some.inj hget)

end Scan

/-! ## What a scan makes of it -/

/-- **Whether a damaged length field goes unnoticed**: the frame seems to end at the end of the log
or behind it, or it seems to end at a checksum that fits and with bytes behind it that scan. -/
def MistakenLength (format : LogFormat) (offset : Nat) (rest : Bytes) : Prop :=
  rest.length ≤ frameLength rest ∨
    Fits rest ∧ ∃ found, scanFrom format (offset + frameLength rest) (rest.drop (frameLength rest)) =
      .ok found

theorem scanFrom_ok_iff_of_header {format : LogFormat} {offset : Nat} {rest : Bytes}
    {kind : RecordKind} (hlen : Frame.headerLength ≤ rest.length)
    (hmagic : rest.take 4 = format.magic.toBytes) (hversion : versionOf rest ≤ Frame.version)
    (hkind : RecordKind.ofByte? (kindByteOf rest) = some kind) :
    (∃ found, scanFrom format offset rest = .ok found) ↔ MistakenLength format offset rest := by
  have hfront := @front_of_header format offset rest kind hlen hmagic hversion hkind
  have hne : rest ≠ [] := by
    rintro rfl
    simp [Frame.headerLength] at hlen
  unfold MistakenLength
  by_cases hshort : rest.length < frameLength rest
  · rw [if_pos hshort] at hfront
    rw [scanFrom_eq, if_neg hne, hfront]
    exact ⟨fun _ => .inl (by omega), fun _ => ⟨_, rfl⟩⟩
  · rw [if_neg hshort] at hfront
    by_cases hfits : Fits rest
    · rw [if_pos hfits] at hfront
      rw [scanFrom_of_intact (front_eq_record_iff.1 hfront)]
      constructor
      · rintro ⟨found, h⟩
        cases htail : scanFrom format (offset + frameLength rest) (rest.drop (frameLength rest)) with
        | error e => rw [htail] at h; cases h
        | ok found => exact .inr ⟨hfits, found, rfl⟩
      · rintro (hend | ⟨-, found, h⟩)
        · rw [List.drop_eq_nil_of_le hend, scanFrom_eq]
          exact ⟨_, rfl⟩
        · rw [h]
          exact ⟨_, rfl⟩
    · rw [if_neg hfits] at hfront
      rw [scanFrom_eq, if_neg hne, hfront]
      by_cases hend : rest.length = frameLength rest
      · rw [if_pos hend]
        exact ⟨fun _ => .inl (by omega), fun _ => ⟨_, rfl⟩⟩
      · rw [if_neg hend]
        constructor
        · rintro ⟨found, h⟩
          cases h
        · rintro (hle | ⟨h, -⟩)
          · omega
          · exact absurd h hfits

section Frames

variable {format : LogFormat} {kind : RecordKind} {payload more : Bytes} {i : Nat} {b : UInt8}

theorem scanFrom_set_of_not_length (h : payload.length ≤ Frame.maxPayload) (offset : Nat)
    (hi : i < Frame.length payload.length)
    (hb : (Frame.toBytes format.magic kind payload ++ more)[i]? ≠ some b) (hmore : more ≠ [])
    (hfield : ¬ InLengthField i) :
    ∃ error, scanFrom format offset ((Frame.toBytes format.magic kind payload ++ more).set i b) =
      .error error := by
  have hintact := @intact_toBytes format offset kind payload h more
  have hframe : frameLength (Frame.toBytes format.magic kind payload ++ more) =
    Frame.length payload.length := hintact.length_payload.symm
  have hversion := versionOf_toBytes format.magic kind payload more
  generalize hrest : Frame.toBytes format.magic kind payload ++ more = rest at *
  have hlen : frameLength rest < rest.length := by
    have hpos := List.length_pos_iff.2 hmore
    rw [hframe, ← hrest, List.length_append, Frame.length_toBytes]
    omega
  have hne : b ≠ rest[i] := by
    rintro rfl
    exact hb (List.getElem?_eq_getElem _)
  have hzero : (rest.set i b).all (· = 0) = false := by
    by_cases hsix : i = 6
    · refine not_all_zero_of_version ?_
      rw [versionOf, field_set_of_not_mem b (by omega), ← versionOf, hversion]
      decide
    · have hkind := hintact.kind
      rw [← kindByteOf_set b hsix] at hkind
      exact not_all_zero_of_kind hkind
  obtain ⟨error, hfront⟩ := @front_damaged format offset _ hzero
    (by rwa [frameLength_set b hfield, List.length_set])
    (not_fits_set hintact.fits (by omega) (by omega) hne hfield)
  refine ⟨error, ?_⟩
  rw [scanFrom_eq, if_neg (by simpa using hintact.ne_nil), hfront]

theorem scanFrom_set_length_ok_iff (h : payload.length ≤ Frame.maxPayload) (offset : Nat)
    (hfield : InLengthField i) :
    (∃ found, scanFrom format offset ((Frame.toBytes format.magic kind payload ++ more).set i b) =
        .ok found) ↔
      MistakenLength format offset ((Frame.toBytes format.magic kind payload ++ more).set i b) := by
  have hintact := @intact_toBytes format offset kind payload h more
  unfold InLengthField at hfield
  refine @scanFrom_ok_iff_of_header format offset _ kind ?_ ?_ ?_ ?_
  · have hlen := hintact.length_le
    have hheader := headerLength_lt_frameLength (Frame.toBytes format.magic kind payload ++ more)
    rw [List.length_set]
    omega
  · rw [take_set_of_le b (by omega)]
    exact hintact.magic
  · rw [versionOf, field_set_of_not_mem b (by omega)]
    exact hintact.version
  · rw [kindByteOf_set b (by omega)]
    exact hintact.kind

/-- **A changed byte goes unnoticed** exactly if it belongs to a length field and the length it makes is
mistaken. -/
theorem scanFrom_set_ok_iff (h : payload.length ≤ Frame.maxPayload) (offset : Nat)
    (hi : i < Frame.length payload.length)
    (hb : (Frame.toBytes format.magic kind payload ++ more)[i]? ≠ some b) (hmore : more ≠ []) :
    (∃ found, scanFrom format offset ((Frame.toBytes format.magic kind payload ++ more).set i b) =
        .ok found) ↔
      InLengthField i ∧
        MistakenLength format offset ((Frame.toBytes format.magic kind payload ++ more).set i b) := by
  by_cases hfield : InLengthField i
  · rw [scanFrom_set_length_ok_iff h offset hfield]
    exact ⟨fun hmistaken => ⟨hfield, hmistaken⟩, fun hboth => hboth.2⟩
  · obtain ⟨error, herror⟩ := scanFrom_set_of_not_length h offset hi hb hmore hfield
    rw [herror]
    constructor
    · rintro ⟨found, hfound⟩
      cases hfound
    · intro hmistaken
      exact absurd hmistaken.1 hfield

end Frames

/-- **Damage in front of the end** fails the scan with a corruption error, and then opening the log
leaves the store as it is, unless the byte belongs to a length field and the length it makes is
mistaken. -/
theorem damage_before_end (format : LogFormat) (before after : List Bytes) {frame : Bytes}
    (hbefore : ∀ f ∈ before, Frame.IsFrame format.magic f)
    (hframe : Frame.IsFrame format.magic frame)
    (hafter : ∀ f ∈ after, Frame.IsFrame format.magic f) (hne : after ≠ [])
    {i : Nat} (hi : i < frame.length) {b : UInt8} (hb : b ≠ frame[i]) :
    let rest := frame.set i b ++ after.flatten
    let image := before.flatten ++ rest
    ((∃ error, scan format image = .error error ∧ error.isCorruption = true) ↔
      ¬ (InLengthField i ∧ MistakenLength format before.flatten.length rest)) ∧
    ∀ {σ ω : Type} [ByteStore σ ω] (store : σ) (world : ω),
      ByteStore.readAll store world = .ok image →
      ¬ (InLengthField i ∧ MistakenLength format before.flatten.length rest) →
      ∃ error, Log.recover format (store, world) = .error error (store, world) ∧
        error.isCorruption = true := by
  intro rest image
  obtain ⟨records, hwalk⟩ := walk_frames format hbefore 0
  obtain ⟨kind, payload, hencode⟩ := hframe
  obtain ⟨hpayload, rfl⟩ := Frame.encode_eq_ok_iff.1 hencode
  -- Bytes follow the damage, so it cannot be taken for a torn end.
  have hmore : after.flatten ≠ [] := by
    obtain ⟨next, others, rfl⟩ := List.exists_cons_of_ne_nil hne
    obtain ⟨kind, payload, hencode⟩ := hafter next (List.mem_cons_self ..)
    obtain ⟨-, rfl⟩ := Frame.encode_eq_ok_iff.1 hencode
    simp [Frame.toBytes, Frame.body, Magic.toBytes]
  have hrest : rest = (Frame.toBytes format.magic kind payload ++ after.flatten).set i b :=
    (List.set_append_left _ _ hi).symm
  have hscan : scan format image =
      (scanFrom format before.flatten.length rest).map (Scan.behind records) := by
    rw [scan, hwalk.scanFrom_append rfl, Nat.zero_add]
  have hok : (∃ found, scanFrom format before.flatten.length rest = .ok found) ↔
      InLengthField i ∧ MistakenLength format before.flatten.length rest := by
    rw [hrest]
    refine scanFrom_set_ok_iff hpayload _ (by rwa [Frame.length_toBytes] at hi) ?_ hmore
    rw [List.getElem?_append_left hi, List.getElem?_eq_getElem hi]
    exact fun h => hb (Option.some.inj h).symm
  have hnoticed : (∃ error, scan format image = .error error ∧ error.isCorruption = true) ↔
      ¬ (InLengthField i ∧ MistakenLength format before.flatten.length rest) := by
    rw [← hok, hscan]
    cases hcase : scanFrom format before.flatten.length rest with
    | ok found => simp [Except.map]
    | error error =>
      simp only [Except.map, reduceCtorEq, exists_false, not_false_eq_true, iff_true]
      exact ⟨error, rfl, isCorruption_of_scan hcase⟩
  refine ⟨hnoticed, ?_⟩
  intro σ ω _ store world hread hmistaken
  obtain ⟨error, herror, hcorrupt⟩ := hnoticed.2 hmistaken
  exact ⟨error, Log.recover_of_scan_error hread herror, hcorrupt⟩

/-- The frame of a history record without a payload. -/
def pushFrame : Bytes := Frame.toBytes ⟨0x54, 0x4c, 0x4f, 0x47⟩ .push []

def pushFormat : LogFormat := ⟨⟨0x54, 0x4c, 0x4f, 0x47⟩, "test"⟩

theorem isFrame_pushFrame : Frame.IsFrame pushFormat.magic pushFrame := ⟨.push, [], rfl⟩

/-- A changed version in the first of two records is noticed. -/
theorem damage_before_end_of_pair :
    ∃ error, scan pushFormat (pushFrame.set 4 2 ++ pushFrame) = .error error ∧
      error.isCorruption = true := by
  have h := (damage_before_end pushFormat [] [pushFrame] (by simp) isFrame_pushFrame
    (by simp [isFrame_pushFrame]) (by simp) (i := 4) (by decide) (b := 2) (by decide)).1
  simpa [InLengthField] using h

/-- A changed length byte in the first of two records makes both of them one torn record, and
opening the log drops the second one too. -/
theorem damaged_length_taken_for_torn :
    Frame.IsFrame pushFormat.magic pushFrame ∧ pushFrame[10]? = some 0 ∧
      scan pushFormat (pushFrame.set 10 1 ++ pushFrame) =
        .ok ⟨[], 0, some ⟨0, 30, .incompleteRecord⟩⟩ ∧
      Log.recover pushFormat (MemoryStore.ofBytes (pushFrame.set 10 1 ++ pushFrame), ()) =
        .ok [] ({ MemoryStore.ofBytes [] with counts := { truncate := 1 } }, ()) := by
  have hfront : front pushFormat 0 (pushFrame.set 10 1 ++ pushFrame) = .torn .incompleteRecord := by
    decide
  have hscan : scan pushFormat (pushFrame.set 10 1 ++ pushFrame) =
      .ok ⟨[], 0, some ⟨0, 30, .incompleteRecord⟩⟩ := by
    rw [scan, scanFrom_eq, if_neg (by decide), hfront]
    rfl
  refine ⟨isFrame_pushFrame, by decide, hscan, ?_⟩
  rw [Log.recover_of_torn (MemoryStore.readAll_eq _ ()) hscan rfl]
  rfl

end Replica
