/-
Frames: how a log writes one record.

A frame is the magic of the log (4 bytes), the version (2), the kind (1), the
payload length (4), the payload, and a checksum (4) over everything before it.
Numbers are little-endian. Each log has a magic of its own, so the records of
one are never taken for records of another.
-/
import Replica.Checksum
import Replica.Error

namespace Replica

/-- The four bytes every frame of a log starts with. -/
structure Magic where
  first : UInt8
  second : UInt8
  third : UInt8
  fourth : UInt8
  deriving DecidableEq, Repr, Inhabited

/-- The bytes of a magic. -/
def Magic.toBytes (magic : Magic) : Bytes :=
  [magic.first, magic.second, magic.third, magic.fourth]

/-- The magic with these bytes, if there are four. -/
def Magic.ofBytes? : Bytes → Option Magic
  | [a, b, c, d] => some ⟨a, b, c, d⟩
  | _ => none

/-- A record and the offset of its frame in the log. -/
structure LogRecord where
  offset : Nat
  kind : RecordKind
  payload : Bytes
  deriving DecidableEq, Repr, Inhabited

namespace Frame

/-- The version written into frames, and the greatest that is read. -/
def version : Nat := 1

/-- The bytes before the payload. -/
def headerLength : Nat := 11

/-- The bytes of the checksum. -/
def checksumLength : Nat := 4

/-- The length of a frame whose payload has this length. -/
def length (payloadLength : Nat) : Nat := headerLength + payloadLength + checksumLength

/-- The greatest payload length a length field can hold. -/
def maxPayload : Nat := 4294967295

/-- Everything a frame's checksum covers. -/
def body (magic : Magic) (kind : RecordKind) (payload : Bytes) : Bytes :=
  magic.toBytes ++ littleEndian 2 version ++ [kind.toByte] ++ littleEndian 4 payload.length
    ++ payload

/-- The bytes of a frame whose payload fits its length field. -/
def toBytes (magic : Magic) (kind : RecordKind) (payload : Bytes) : Bytes :=
  let covered := body magic kind payload
  covered ++ littleEndian 4 (checksum covered).toNat

/-- Frames a record; fails if the payload is too large. -/
def encode (magic : Magic) (kind : RecordKind) (payload : Bytes) : Except StoreError Bytes :=
  if maxPayload < payload.length then .error (.messageTooLarge payload.length maxPayload)
  else .ok (toBytes magic kind payload)

end Frame

end Replica
