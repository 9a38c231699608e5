/-
The image of a state file: magic (4 bytes), version (2), digest (8), number of
applied messages (8), checksum (4) over everything before it.
-/
import Replica.Log.Frame

namespace Replica

/-- The name of the state store in errors. -/
def stateName : String := "state store"

/-- What a state file holds. -/
structure Snapshot where
  digest : Digest
  /-- How many messages have been folded. -/
  applied : UInt64
  deriving DecidableEq, Repr, Inhabited

namespace Snapshot

/-- The magic of state files. -/
def magic : Magic := ⟨0x43, 0x53, 0x54, 0x41⟩

/-- The version written into state files, and the greatest that is read. -/
def version : Nat := 1

/-- The length of every state file. -/
def imageLength : Nat := 26

/-- The length of what the checksum covers. -/
def coveredLength : Nat := 22

/-- Everything the checksum covers. -/
def body (snapshot : Snapshot) : Bytes :=
  magic.toBytes ++ littleEndian 2 version ++ littleEndian 8 snapshot.digest.value.toNat
    ++ littleEndian 8 snapshot.applied.toNat

/-- The image of a snapshot. -/
def encode (snapshot : Snapshot) : Bytes :=
  snapshot.body ++ littleEndian 4 (checksum snapshot.body).toNat

/-- The number in `size` bytes from `start` on. -/
def field (image : Bytes) (start size : Nat) : Nat :=
  fromLittleEndian ((image.drop start).take size)

/-- Reads an image. -/
def decode (image : Bytes) : Except StoreError Snapshot :=
  let damaged (damage : Damage) := Except.error (.corrupted stateName damage)
  if image.length ≠ imageLength then damaged (.snapshotLength imageLength image.length)
  else if image.take 4 ≠ magic.toBytes then damaged .snapshotMagic
  else if version < field image 4 2 then damaged (.snapshotVersion (field image 4 2))
  else
    let stored := UInt32.ofNat (field image coveredLength 4)
    let computed := checksum (image.take coveredLength)
    if stored = computed then
      .ok ⟨⟨UInt64.ofNat (field image 6 8)⟩, UInt64.ofNat (field image 14 8)⟩
    else .error (.checksumMismatch 0 stored computed)

end Snapshot

end Replica
