/-
Messages and their encoding: identifier in eight bytes, payload length in four,
payload. All numbers are little-endian.
-/
import Replica.Error

namespace Replica

/-- A unit of synchronizable work. -/
structure Message where
  id : MessageId
  payload : Bytes
  deriving DecidableEq, Repr, Inhabited

namespace Message

/-- The greatest payload length a length field can hold. -/
def maxPayload : Nat := 4294967295

/-- The bytes before the payload. -/
def headerLength : Nat := 12

/-- The bytes of a message whose payload fits its length field. -/
def toBytes (message : Message) : Bytes :=
  littleEndian 8 message.id.value.toNat ++ littleEndian 4 message.payload.length
    ++ message.payload

/-- Encodes a message; fails if the payload is too large. -/
def encode (message : Message) : Except StoreError Bytes :=
  if maxPayload < message.payload.length then
    .error (.messageTooLarge message.payload.length maxPayload)
  else .ok message.toBytes

/-- Decodes a message; `store` is named in errors. -/
def decode (store : String) (data : Bytes) : Except StoreError Message :=
  if data.length < headerLength then .error (.corrupted store .messageTooShort)
  else
    let id : MessageId := ⟨UInt64.ofNat (fromLittleEndian (data.take 8))⟩
    let declared := fromLittleEndian ((data.drop 8).take 4)
    let payload := data.drop headerLength
    if payload.length = declared then .ok ⟨id, payload⟩
    else .error (.corrupted store (.messageLength id declared payload.length))

end Message

end Replica
