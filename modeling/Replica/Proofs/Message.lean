/-
Messages and their bytes.

What was encoded decodes to the same message (`decode_toBytes`), and bytes that decode
are the encoding of what they decode to (`eq_toBytes_of_decode`). Whether bytes are an
encoding at all is told by their length and the length that they declare.
-/
import Replica.Log.Frame
import Replica.Message
import Replica.Proofs.Bytes

namespace Replica.Message

theorem encode_eq_ok_iff {message : Message} {data : Bytes} :
    message.encode = .ok data ↔
      message.payload.length ≤ maxPayload ∧ data = message.toBytes := by
  unfold encode
  split
  · simp only [reduceCtorEq, false_iff, not_and]
    omega
  · simp only [Except.ok.injEq]
    constructor
    · rintro rfl
      exact ⟨by omega, rfl⟩
    · rintro ⟨_, rfl⟩
      rfl

theorem length_toBytes (message : Message) :
    message.toBytes.length = headerLength + message.payload.length := by
  simp [toBytes, headerLength]
  omega

/-- A message that fits in one record of a log. -/
def Fits (message : Message) : Prop := message.toBytes.length ≤ Frame.maxPayload

theorem Fits.encode {message : Message} (h : message.Fits) : message.encode = .ok message.toBytes := by
  refine encode_eq_ok_iff.2 ⟨?_, rfl⟩
  have hlen : message.toBytes.length ≤ Frame.maxPayload := h
  rw [length_toBytes] at hlen
  simp only [headerLength, Frame.maxPayload, maxPayload] at *
  omega

/-- **Decoding** undoes encoding. -/
theorem decode_toBytes (store : String) {message : Message}
    (h : message.payload.length ≤ maxPayload) : decode store message.toBytes = .ok message := by
  have hid : fromLittleEndian (message.toBytes.take 8) = message.id.value.toNat := by
    have hlt : message.id.value.toNat < capacity 8 := UInt64.toNat_lt _
    rw [toBytes, List.append_assoc, List.take_left' (length_littleEndian 8 _),
      fromLittleEndian_littleEndian hlt]
  have hdeclared : fromLittleEndian ((message.toBytes.drop 8).take 4) = message.payload.length := by
    have hlt : message.payload.length < capacity 4 := by
      simp only [maxPayload] at h
      simp only [capacity]
      omega
    rw [toBytes, List.append_assoc, List.drop_left' (length_littleEndian 8 _),
      List.take_left' (length_littleEndian 4 _), fromLittleEndian_littleEndian hlt]
  have hpayload : message.toBytes.drop headerLength = message.payload := by
    rw [toBytes, List.drop_left' (by simp [headerLength])]
  have hlen : ¬ message.toBytes.length < headerLength := by
    rw [length_toBytes]
    omega
  rw [decode, if_neg hlen]
  simp only [hid, hdeclared, hpayload, if_true, UInt64.ofNat_toNat]

/-! ## Bytes that decode -/

/-- The payload length that encoded bytes declare. -/
def declaredLength (data : Bytes) : Nat := fromLittleEndian ((data.drop 8).take 4)

/-- The identifier at the front of encoded bytes. -/
def declaredId (data : Bytes) : MessageId := ⟨UInt64.ofNat (fromLittleEndian (data.take 8))⟩

theorem declaredLength_le (data : Bytes) : declaredLength data ≤ maxPayload := by
  have hlt := fromLittleEndian_take_lt (data.drop 8) 4
  simp only [capacity] at hlt
  simp only [declaredLength, maxPayload]
  omega

theorem decode_of_short (store : String) {data : Bytes} (h : data.length < headerLength) :
    decode store data = .error (.corrupted store .messageTooShort) := by
  rw [decode, if_pos h]

theorem decode_of_length_eq (store : String) {data : Bytes}
    (h : data.length = headerLength + declaredLength data) :
    decode store data = .ok ⟨declaredId data, data.drop headerLength⟩ := by
  have hlong : ¬ data.length < headerLength := by omega
  have hpayload : (data.drop headerLength).length = fromLittleEndian ((data.drop 8).take 4) := by
    rw [List.length_drop, h, Nat.add_sub_cancel_left, declaredLength]
  rw [decode, if_neg hlong]
  simp only [hpayload, if_true]
  rfl

theorem decode_of_length_ne (store : String) {data : Bytes} (hlong : headerLength ≤ data.length)
    (h : data.length ≠ headerLength + declaredLength data) :
    decode store data = .error (.corrupted store
      (.messageLength (declaredId data) (declaredLength data) (data.length - headerLength))) := by
  have hpayload : data.length - headerLength ≠ fromLittleEndian ((data.drop 8).take 4) := by
    simp only [declaredLength] at h
    omega
  rw [decode, if_neg (Nat.not_lt.2 hlong)]
  simp only [List.length_drop, hpayload, if_false]
  rfl

/-- **Bytes decode** exactly if they are as long as they declare. -/
theorem decode_eq_ok_iff_length {store : String} {data : Bytes} {message : Message} :
    decode store data = .ok message ↔
      data.length = headerLength + declaredLength data ∧
        message = ⟨declaredId data, data.drop headerLength⟩ := by
  by_cases hlength : data.length = headerLength + declaredLength data
  · rw [decode_of_length_eq store hlength, Except.ok.injEq, and_iff_right hlength, eq_comm]
  · rw [iff_false_right fun h => hlength h.1]
    by_cases hlong : headerLength ≤ data.length
    · rw [decode_of_length_ne store hlong hlength]
      exact nofun
    · rw [decode_of_short store (Nat.not_le.1 hlong)]
      exact nofun

theorem toBytes_of_length_eq {data : Bytes} (h : data.length = headerLength + declaredLength data) :
    toBytes ⟨declaredId data, data.drop headerLength⟩ = data := by
  have hlong : headerLength ≤ data.length := by omega
  simp only [headerLength] at hlong
  have hid : littleEndian 8 (declaredId data).value.toNat = data.take 8 := by
    have hlt : fromLittleEndian (data.take 8) < UInt64.size := fromLittleEndian_take_lt data 8
    rw [declaredId, UInt64.toNat_ofNat_of_lt' hlt]
    exact (take_eq_littleEndian (by omega)).symm
  have hlen : littleEndian 4 (data.drop headerLength).length = (data.drop 8).take 4 := by
    rw [List.length_drop, h, Nat.add_sub_cancel_left, declaredLength]
    exact (take_eq_littleEndian (by rw [List.length_drop]; omega)).symm
  rw [toBytes, hid, hlen, List.append_assoc]
  calc data.take 8 ++ ((data.drop 8).take 4 ++ data.drop headerLength)
      = data.take 8 ++ ((data.drop 8).take 4 ++ (data.drop 8).drop 4) := by rw [List.drop_drop]; rfl
    _ = data := by rw [List.take_append_drop, List.take_append_drop]

/-- **What was decoded** encodes to the bytes it was decoded from. -/
theorem eq_toBytes_of_decode {store : String} {data : Bytes} {message : Message}
    (h : decode store data = .ok message) :
    message.payload.length ≤ maxPayload ∧ data = message.toBytes := by
  obtain ⟨hlength, rfl⟩ := decode_eq_ok_iff_length.1 h
  refine ⟨?_, (toBytes_of_length_eq hlength).symm⟩
  show (data.drop headerLength).length ≤ maxPayload
  rw [List.length_drop, hlength, Nat.add_sub_cancel_left]
  exact declaredLength_le data

theorem length_toBytes_of_decode {store : String} {data : Bytes} {message : Message}
    (h : decode store data = .ok message) : message.toBytes.length = data.length := by
  rw [(eq_toBytes_of_decode h).2]

theorem decode_eq_ok_iff {store : String} {data : Bytes} {message : Message} :
    decode store data = .ok message ↔ message.encode = .ok data := by
  rw [encode_eq_ok_iff]
  constructor
  · exact eq_toBytes_of_decode
  · rintro ⟨hfits, rfl⟩
    exact decode_toBytes store hfits

theorem isCorruption_of_decode {store : String} {data : Bytes} {error : StoreError}
    (h : decode store data = .error error) : error.isCorruption = true := by
  by_cases hlong : headerLength ≤ data.length
  · by_cases hlength : data.length = headerLength + declaredLength data
    · rw [decode_of_length_eq store hlength] at h
      cases h
    · rw [decode_of_length_ne store hlong hlength] at h
      cases h
      rfl
  · rw [decode_of_short store (Nat.not_le.1 hlong)] at h
    cases h
    rfl

/-- **Messages and their encodings are one to one.** Every message that fits its length field has an
encoding, which decodes to it whatever the store is called; bytes decode to a message exactly if
they are its encoding; and bytes that are none, which are those of another length than they declare,
are refused as damaged: as too short if the header does not fit in them, else with the length they
declare and the length they hold. -/
theorem encoding_one_to_one (store : String) :
    (∀ message : Message, message.payload.length < UInt32.size →
      ∃ data, message.encode = .ok data ∧ decode store data = .ok message) ∧
    ∀ data : Bytes,
      (∀ message : Message, decode store data = .ok message ↔ message.encode = .ok data) ∧
      ((∃ message : Message, message.encode = .ok data) ↔
        data.length = headerLength + declaredLength data) ∧
      ((¬ ∃ message : Message, message.encode = .ok data) →
        decode store data = .error (.corrupted store
          (if data.length < headerLength then .messageTooShort
          else .messageLength (declaredId data) (declaredLength data)
            (data.length - headerLength)))) := by
  have hlength (data : Bytes) : (∃ message : Message, message.encode = .ok data) ↔
      data.length = headerLength + declaredLength data := by
    constructor
    · rintro ⟨message, hencode⟩
      exact (decode_eq_ok_iff_length.1 (@decode_eq_ok_iff store _ _ |>.2 hencode)).1
    · intro h
      exact ⟨_, decode_eq_ok_iff.1 (decode_of_length_eq store h)⟩
  refine ⟨fun message hfits => ?_, fun data => ⟨fun _ => decode_eq_ok_iff, hlength data, ?_⟩⟩
  · have hpayload : message.payload.length ≤ maxPayload := Nat.le_of_lt_succ hfits
    exact ⟨message.toBytes, encode_eq_ok_iff.2 ⟨hpayload, rfl⟩, decode_toBytes store hpayload⟩
  · rw [hlength]
    intro hother
    by_cases hshort : data.length < headerLength
    · rw [if_pos hshort, decode_of_short store hshort]
    · rw [if_neg hshort, decode_of_length_ne store (Nat.not_lt.1 hshort) hother]

end Replica.Message
