/-
Scanning a log image.

`front` says what stands at the front of the bytes that are left: an intact
record, the torn record a crash in the middle of an append leaves behind, or
damage. A scan only chains the fronts (`scanFrom_eq`). A torn record ends a scan
that succeeds and nothing behind it is looked at; damage fails the scan.
-/
import Replica.Log.Frame

namespace Replica

/-- Why the end of a log is taken for a torn record. -/
inductive TornReason
  | zeroFilled
  | incompleteHeader
  | incompleteRecord
  | badFinalChecksum
  deriving DecidableEq, Repr, Inhabited

/-- What is said about a torn record. -/
def TornReason.text : TornReason → String
  | zeroFilled => "zero-filled tail"
  | incompleteHeader => "incomplete header"
  | incompleteRecord => "incomplete record"
  | badFinalChecksum => "checksum mismatch on final record"

/-- A record at the end of a log that was only partly written. -/
structure TornTail where
  offset : Nat
  length : Nat
  reason : TornReason
  deriving DecidableEq, Repr, Inhabited

/-- The result of scanning a log. -/
structure Scan where
  /-- Every intact record, in log order. -/
  records : List LogRecord
  /-- The length of the intact part. -/
  validLength : Nat
  tornTail : Option TornTail
  deriving DecidableEq, Repr, Inhabited

/-- A log's magic and the name its store goes by in errors. -/
structure LogFormat where
  magic : Magic
  store : String
  deriving DecidableEq, Repr, Inhabited

namespace Scan

/-- The version field of a frame. -/
def versionOf (data : Bytes) : Nat := fromLittleEndian ((data.drop 4).take 2)

/-- The kind field of a frame. -/
def kindByteOf (data : Bytes) : UInt8 := data.getD 6 0

/-- The payload length field of a frame. -/
def payloadLengthOf (data : Bytes) : Nat := fromLittleEndian ((data.drop 7).take 4)

/-- The checksum stored in a frame whose covered part has this length. -/
def storedChecksum (data : Bytes) (covered : Nat) : UInt32 :=
  UInt32.ofNat (fromLittleEndian ((data.drop covered).take 4))

/-- What stands at the front of the rest of a log. -/
inductive Front
  | record (record : LogRecord)
  | torn (reason : TornReason)
  | damaged (error : StoreError)
  deriving DecidableEq, Repr, Inhabited

/-- Judges the front of the rest of a log. `offset` is where the rest starts. -/
def front (format : LogFormat) (offset : Nat) (rest : Bytes) : Front :=
  if rest.all (· = 0) then .torn .zeroFilled
  else if isShorter rest Frame.headerLength then .torn .incompleteHeader
  else if rest.take 4 ≠ format.magic.toBytes then
    .damaged (.corrupted format.store (.invalidMagic offset))
  else if Frame.version < versionOf rest then
    .damaged (.corrupted format.store (.unsupportedVersion (versionOf rest) offset))
  else match RecordKind.ofByte? (kindByteOf rest) with
    | none => .damaged (.corrupted format.store (.unknownKind (kindByteOf rest).toNat offset))
    | some kind =>
      let covered := Frame.headerLength + payloadLengthOf rest
      if isShorter rest (Frame.length (payloadLengthOf rest)) then .torn .incompleteRecord
      else
        let stored := storedChecksum rest covered
        let computed := checksum (rest.take covered)
        if stored = computed then
          .record ⟨offset, kind, (rest.take covered).drop Frame.headerLength⟩
        else if rest.length = Frame.length (payloadLengthOf rest) then .torn .badFinalChecksum
        else .damaged (.checksumMismatch offset stored computed)

end Scan

/-- Scans the rest of a log that starts at `offset`. `found` holds the records before it, the latest
first. -/
def scanOnto (format : LogFormat) (found : List LogRecord) (offset : Nat) (rest : Bytes) :
    Except StoreError Scan :=
  if _hrest : rest = [] then .ok ⟨found.reverse, offset, none⟩
  else match Scan.front format offset rest with
    | .torn reason => .ok ⟨found.reverse, offset, some ⟨offset, rest.length, reason⟩⟩
    | .damaged error => .error error
    | .record record =>
      let size := Frame.length record.payload.length
      scanOnto format (record :: found) (offset + size) (rest.drop size)
termination_by rest.length
decreasing_by
  have : 0 < rest.length := List.length_pos_iff.2 _hrest
  simp only [List.length_drop, Frame.length, Frame.headerLength]
  omega

/-- Scans the rest of a log that starts at `offset`. -/
def scanFrom (format : LogFormat) (offset : Nat) (rest : Bytes) : Except StoreError Scan :=
  scanOnto format [] offset rest

/-- The same scan with records in front of those it found. -/
def Scan.behind (found : List LogRecord) (scan : Scan) : Scan :=
  { scan with records := found ++ scan.records }

theorem scanOnto_append (format : LogFormat) (found before : List LogRecord) (offset : Nat)
    (rest : Bytes) :
    scanOnto format (found ++ before) offset rest =
      (scanOnto format found offset rest).map (Scan.behind before.reverse) := by
  fun_induction scanOnto format found offset rest with
  | case1 => rw [scanOnto]; simp [Except.map, Scan.behind]
  | case2 found offset rest h reason hf =>
    rw [scanOnto]; simp [h, hf, Except.map, Scan.behind]
  | case3 found offset rest h error hf => rw [scanOnto]; simp [h, hf, Except.map]
  | case4 found offset rest h record hf size ih =>
    rw [scanOnto]; simp only [h, hf, dite_false]; exact ih

theorem scanFrom_eq (format : LogFormat) (offset : Nat) (rest : Bytes) :
    scanFrom format offset rest =
      if rest = [] then .ok ⟨[], offset, none⟩
      else match Scan.front format offset rest with
        | .torn reason => .ok ⟨[], offset, some ⟨offset, rest.length, reason⟩⟩
        | .damaged error => .error error
        | .record record =>
          (scanFrom format (offset + Frame.length record.payload.length)
            (rest.drop (Frame.length record.payload.length))).map (Scan.behind [record]) := by
  unfold scanFrom
  rw [scanOnto]
  by_cases h : rest = []
  · simp [h]
  · simp only [h, dite_false, if_false, List.reverse_nil]
    split
    · rfl
    · rfl
    · rename_i record _
      exact scanOnto_append format [] [record] _ _

/-- Scans a whole log image. -/
def scan (format : LogFormat) (image : Bytes) : Except StoreError Scan := scanFrom format 0 image

end Replica
