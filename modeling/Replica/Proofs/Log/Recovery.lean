/-
What a scan of any bytes says.

`Scan.shift` moves what was found by some bytes, and a scan that starts so much
further on finds the same, moved (`scanFrom_shift`). The intact part of a log is
made of frames back to back (`Framed`), and since it scans by itself, whatever is
written behind it is read as if it stood alone. So the end of a log may be cut off
and written again without anything said before being taken back (`scan_recovers`).
-/
import Replica.Proofs.Log

namespace Replica

open Scan

/-! ## Further on -/

/-- The same damage, `n` bytes further on. -/
def Damage.shift (n : Nat) : Damage → Damage
  | invalidMagic offset => invalidMagic (offset + n)
  | unsupportedVersion version offset => unsupportedVersion version (offset + n)
  | unknownKind byte offset => unknownKind byte (offset + n)
  | malformedDequeue offset => malformedDequeue (offset + n)
  | wrongDequeue id offset head => wrongDequeue id (offset + n) head
  | dequeueOnEmpty id offset => dequeueOnEmpty id (offset + n)
  | historyRecord offset => historyRecord (offset + n)
  | unexpectedKind kind offset => unexpectedKind kind (offset + n)
  | messageTooShort => messageTooShort
  | messageLength id declared held => messageLength id declared held
  | snapshotLength expected found => snapshotLength expected found
  | snapshotMagic => snapshotMagic
  | snapshotVersion version => snapshotVersion version
  | other text => other text

/-- The same failure, `n` bytes further on. -/
def StoreError.shift (n : Nat) : StoreError → StoreError
  | corrupted store damage => corrupted store (damage.shift n)
  | checksumMismatch offset expected actual => checksumMismatch (offset + n) expected actual
  | error => error

/-- The same record, `n` bytes further on. -/
def LogRecord.shift (n : Nat) (record : LogRecord) : LogRecord :=
  { record with offset := record.offset + n }

/-- The same torn tail, `n` bytes further on. -/
def TornTail.shift (n : Nat) (torn : TornTail) : TornTail := { torn with offset := torn.offset + n }

namespace Scan

/-- The same front, `n` bytes further on. -/
def Front.shift (n : Nat) : Front → Front
  | record found => record (found.shift n)
  | torn reason => torn reason
  | damaged error => damaged (error.shift n)

/-- What was found, `n` bytes further on. -/
def shift (n : Nat) (found : Scan) : Scan :=
  ⟨found.records.map (·.shift n), found.validLength + n, found.tornTail.map (·.shift n)⟩

theorem front_shift (format : LogFormat) (offset n : Nat) (rest : Bytes) :
    front format (offset + n) rest = (front format offset rest).shift n := by
  unfold front
  split
  · rfl
  split
  · rfl
  split
  · rfl
  split
  · rfl
  split
  · rfl
  split
  · rfl
  dsimp only
  split
  · rfl
  split <;> rfl

theorem Intact.shift {format : LogFormat} {offset : Nat} {rest : Bytes} {record : LogRecord}
    (h : Intact format offset rest record) (n : Nat) :
    Intact format (offset + n) rest (record.shift n) := by
  rw [← front_eq_record_iff, front_shift, front_eq_record_iff.2 h]
  rfl

end Scan

/-- What a scan gives, `n` bytes further on. -/
def shiftResult (n : Nat) : Except StoreError Scan → Except StoreError Scan
  | .ok found => .ok (found.shift n)
  | .error error => .error (error.shift n)

/-- **A scan does not depend on where the bytes stand**, except for the offsets it gives. -/
theorem scanFrom_shift (format : LogFormat) (n offset : Nat) (rest : Bytes) :
    scanFrom format (offset + n) rest = shiftResult n (scanFrom format offset rest) := by
  induction offset, rest using scanFrom_induction format with
  | done offset =>
    rw [scanFrom_eq, scanFrom_eq]
    rfl
  | @torn offset rest reason hrest hfront =>
    have hmoved : front format (offset + n) rest = .torn reason := by rw [front_shift, hfront]; rfl
    rw [scanFrom_of_torn hrest hmoved, scanFrom_of_torn hrest hfront]
    rfl
  | @damaged offset rest error hrest hfront =>
    have hmoved : front format (offset + n) rest = .damaged (error.shift n) := by
      rw [front_shift, hfront]
      rfl
    rw [scanFrom_of_damaged hrest hmoved, scanFrom_of_damaged hrest hfront]
    rfl
  | @record offset rest record hintact ih =>
    rw [scanFrom_of_intact (hintact.shift n), scanFrom_of_intact hintact, Nat.add_right_comm, ih]
    cases scanFrom format (offset + frameLength rest) (rest.drop (frameLength rest)) <;> rfl

/-! ## Frames back to back -/

/-- A frame as `version` wrote it. -/
def Frame.ofVersion (version : Nat) (magic : Magic) (kind : RecordKind) (payload : Bytes) : Bytes :=
  let covered := magic.toBytes ++ littleEndian 2 version ++ [kind.toByte] ++
    littleEndian 4 payload.length ++ payload
  covered ++ littleEndian 4 (checksum covered).toNat

theorem Frame.ofVersion_version (magic : Magic) (kind : RecordKind) (payload : Bytes) :
    Frame.ofVersion Frame.version magic kind payload = Frame.toBytes magic kind payload := rfl

/-- **Bytes made of the frames of these records**, back to back from `offset` on, each with the magic
in front and a checksum behind that fits what is between them. -/
inductive Framed (magic : Magic) : (offset : Nat) → Bytes → List LogRecord → Prop
  | nil (offset : Nat) : Framed magic offset [] []
  | cons {offset version : Nat} {kind : RecordKind} {payload image : Bytes} {records : List LogRecord}
      (hversion : version ≤ Frame.version) (hpayload : payload.length ≤ Frame.maxPayload)
      (tail : Framed magic (offset + Frame.length payload.length) image records) :
      Framed magic offset (Frame.ofVersion version magic kind payload ++ image)
        (⟨offset, kind, payload⟩ :: records)

theorem Scan.Intact.take_coveredLength {format : LogFormat} {offset : Nat} {rest : Bytes}
    {record : LogRecord} (h : Intact format offset rest record) :
    rest.take (coveredLength rest) = format.magic.toBytes ++ littleEndian 2 (versionOf rest) ++
      [record.kind.toByte] ++ littleEndian 4 record.payload.length ++ record.payload := by
  have hlen := h.length_le
  have hpayload := h.length_payload
  simp only [frameLength, Frame.length, Frame.headerLength, Frame.checksumLength] at hlen hpayload
  have hfields : coveredLength rest = 4 + 2 + 1 + 4 + payloadLengthOf rest := rfl
  have hversion : (rest.drop 4).take 2 = littleEndian 2 (versionOf rest) :=
    take_eq_littleEndian (by rw [List.length_drop]; omega)
  have hkind : (rest.drop (4 + 2)).take 1 = [record.kind.toByte] := by
    have hsix : 6 < rest.length := by omega
    have hbyte : kindByteOf rest = rest[6] := by simp [kindByteOf, hsix]
    rw [RecordKind.toByte_of_ofByte? h.kind, hbyte]
    show (rest.drop 6).take 1 = [rest[6]]
    rw [List.drop_eq_getElem_cons hsix]
    rfl
  have hlength : (rest.drop (4 + 2 + 1)).take 4 = littleEndian 4 record.payload.length := by
    rw [take_eq_littleEndian (by rw [List.length_drop]; omega)]
    congr 1
    show payloadLengthOf rest = record.payload.length
    omega
  have hbytes : (rest.drop (4 + 2 + 1 + 4)).take (payloadLengthOf rest) = record.payload := by
    rw [h.payload, payloadOf, coveredLength, List.drop_take, Frame.headerLength,
      Nat.add_sub_cancel_left]
  rw [hfields, List.take_add, List.take_add, List.take_add, List.take_add, h.magic, hversion, hkind,
    hlength, hbytes]

theorem Scan.Intact.take_frameLength {format : LogFormat} {offset : Nat} {rest : Bytes}
    {record : LogRecord} (h : Intact format offset rest record) :
    rest.take (frameLength rest) =
      Frame.ofVersion (versionOf rest) format.magic record.kind record.payload := by
  have hlen := h.length_le
  rw [frameLength_eq] at hlen ⊢
  have hsize : fromLittleEndian ((rest.drop (coveredLength rest)).take 4) < UInt32.size :=
    fromLittleEndian_take_lt _ 4
  have hstored : (rest.drop (coveredLength rest)).take 4 =
      littleEndian 4 (checksum (rest.take (coveredLength rest))).toNat := by
    rw [← h.fits, storedChecksum, UInt32.toNat_ofNat_of_lt' hsize]
    exact take_eq_littleEndian (by rw [List.length_drop]; omega)
  rw [List.take_add, hstored, h.take_coveredLength, Frame.ofVersion]

/-- **What a walk finds is there**: the bytes in front of the torn tail are the frames of its records. -/
theorem Walk.framed {format : LogFormat} {offset : Nat} {rest : Bytes} {scan : Scan}
    (h : Walk format offset rest scan) :
    Framed format.magic offset (rest.take (scan.validLength - offset)) scan.records := by
  induction h with
  | done offset => simpa using Framed.nil offset
  | @torn offset => simpa using Framed.nil offset
  | @record offset rest record scan hintact tail ih =>
    obtain ⟨position, kind, payload⟩ := record
    obtain rfl : position = offset := hintact.offset_eq
    have hle := tail.offset_le
    have hsplit : rest.take (scan.validLength - position) =
        Frame.ofVersion (versionOf rest) format.magic kind payload ++
          (rest.drop (frameLength rest)).take (scan.validLength - (position + frameLength rest)) := by
      rw [← hintact.take_frameLength, ← List.take_add]
      congr 1
      omega
    have hsize : Frame.length payload.length = frameLength rest := hintact.length_payload
    have hpayload : payload.length ≤ Frame.maxPayload := hintact.payload_le
    rw [← hsize] at ih hsplit
    simp only [Scan.behind, List.singleton_append]
    rw [hsplit]
    exact .cons hintact.version hpayload ih

theorem Walk.validLength_add_torn {format : LogFormat} {offset : Nat} {rest : Bytes} {scan : Scan}
    (h : Walk format offset rest scan) {torn : TornTail} (htorn : scan.tornTail = some torn) :
    scan.validLength + torn.length = offset + rest.length := by
  induction h with
  | done => cases htorn
  | torn => cases htorn; rfl
  | @record offset rest record scan hintact tail ih =>
    have hlen := hintact.length_le
    have ih := ih htorn
    simp only [List.length_drop, Scan.behind] at ih ⊢
    omega

/-! ## Any bytes -/

/-- **Scanning any bytes is sound, and can be taken up again.** A scan that fails says that the bytes
cannot be trusted, and opening the log leaves its store alone. A scan that succeeds finds frames back
to back and takes all bytes behind them for torn; the bytes in front scan to the same records, and
with any others behind them to those and what the others scan to, so much further on. -/
theorem scan_recovers (format : LogFormat) (data : Bytes) :
    match scan format data with
    | .error error => error.isCorruption = true ∧
        ∀ {σ ω : Type} [ByteStore σ ω] (store : σ) (world : ω),
          ByteStore.readAll store world = .ok data →
            Log.recover format (store, world) = .error error (store, world)
    | .ok found =>
        Framed format.magic 0 (data.take found.validLength) found.records ∧
        (found.tornTail = none ∧ found.validLength = data.length ∨
          ∃ reason, found.tornTail =
            some ⟨found.validLength, data.length - found.validLength, reason⟩ ∧
              found.validLength < data.length) ∧
        scan format (data.take found.validLength) = .ok { found with tornTail := none } ∧
        ∀ more, scan format (data.take found.validLength ++ more) =
          (shiftResult found.validLength (scan format more)).map (Scan.behind found.records) := by
  cases hscan : scan format data with
  | error error =>
    refine ⟨isCorruption_of_scan hscan, ?_⟩
    intro σ ω _ store world hread
    exact Log.recover_of_scan_error hread hscan
  | ok found =>
    have hwalk := scanFrom_eq_ok_iff.1 hscan
    have hframed := hwalk.framed
    have hvalid := hwalk.take_valid
    rw [Nat.sub_zero] at hframed hvalid
    have hle := hwalk.validLength_le
    rw [Nat.zero_add] at hle
    refine ⟨hframed, ?_, hvalid.scanFrom_eq_ok, fun more => ?_⟩
    · cases htail : found.tornTail with
      | none => exact .inl ⟨rfl, by rw [hwalk.validLength_of_whole htail, Nat.zero_add]⟩
      | some torn =>
        obtain ⟨position, length, reason⟩ := torn
        obtain ⟨hposition, hlt⟩ := hwalk.validLength_of_torn htail
        have hlength := hwalk.validLength_add_torn htail
        simp only [Nat.zero_add] at hposition hlt hlength
        subst hposition
        refine .inr ⟨reason, ?_, hlt⟩
        rw [← hlength, Nat.add_sub_cancel_left]
    · have hmore := hvalid.scanFrom_append rfl more
      rw [List.length_take_of_le hle, scanFrom_shift] at hmore
      exact hmore

/-- A log with another magic is refused, and the bytes in memory are left as they are. -/
theorem scan_recovers_of_other_magic :
    Log.recover ⟨⟨0x54, 0x4c, 0x4f, 0x47⟩, "test"⟩ (MemoryStore.ofBytes (List.replicate 11 1), ()) =
      .error (.corrupted "test" (.invalidMagic 0))
        (MemoryStore.ofBytes (List.replicate 11 1), ()) := by
  have h := scan_recovers ⟨⟨0x54, 0x4c, 0x4f, 0x47⟩, "test"⟩ (List.replicate 11 1)
  have hscan : scan ⟨⟨0x54, 0x4c, 0x4f, 0x47⟩, "test"⟩ (List.replicate 11 1) =
      .error (.corrupted "test" (.invalidMagic 0)) :=
    scanFrom_of_damaged (by decide) (by decide)
  rw [hscan] at h
  exact h.2 _ () (MemoryStore.readAll_eq _ ())

end Replica
