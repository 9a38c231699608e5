/-
State files: what was written is read back. Folds: one message after another.
-/
import Replica.State
import Replica.Proofs.Log.Front

namespace Replica

namespace Snapshot

theorem length_body (snapshot : Snapshot) : snapshot.body.length = coveredLength := by
  simp [body, Magic.toBytes, coveredLength]

theorem length_encode (snapshot : Snapshot) : snapshot.encode.length = imageLength := by
  simp [encode, length_body, coveredLength, imageLength]

theorem field_append {front middle rest : Bytes} {start size : Nat} (hfront : front.length = start)
    (hmiddle : middle.length = size) :
    field (front ++ (middle ++ rest)) start size = fromLittleEndian middle := by
  rw [field, List.drop_left' hfront, List.take_left' hmiddle]

theorem field_littleEndian {image front rest : Bytes} {start size n : Nat}
    (himage : image = front ++ (littleEndian size n ++ rest)) (hfront : front.length = start)
    (hlt : n < capacity size) : field image start size = n := by
  rw [himage, field_append hfront (length_littleEndian size n), fromLittleEndian_littleEndian hlt]

/-- **Reading** undoes writing. -/
theorem decode_encode (snapshot : Snapshot) : decode snapshot.encode = .ok snapshot := by
  have hcovered : snapshot.encode.take coveredLength = snapshot.body :=
    List.take_left' (length_body snapshot)
  have hmagic : snapshot.encode.take 4 = magic.toBytes := by
    simp [encode, body, Magic.toBytes]
  have hafterMagic : snapshot.encode = magic.toBytes ++ (littleEndian 2 version ++
      (littleEndian 8 snapshot.digest.value.toNat ++ (littleEndian 8 snapshot.applied.toNat ++
        littleEndian 4 (checksum snapshot.body).toNat))) := by
    simp only [encode, body, List.append_assoc]
  have hafterVersion := hafterMagic
  rw [← List.append_assoc] at hafterVersion
  have hafterDigest := hafterVersion
  rw [← List.append_assoc] at hafterDigest
  have hversion : field snapshot.encode 4 2 = version :=
    field_littleEndian hafterMagic rfl (by decide)
  have hdigest : field snapshot.encode 6 8 = snapshot.digest.value.toNat :=
    field_littleEndian hafterVersion (by simp [Magic.toBytes]) (UInt64.toNat_lt _)
  have happlied : field snapshot.encode 14 8 = snapshot.applied.toNat :=
    field_littleEndian hafterDigest (by simp [Magic.toBytes]) (UInt64.toNat_lt _)
  have hstored : field snapshot.encode coveredLength 4 = (checksum snapshot.body).toNat :=
    field_littleEndian (show snapshot.encode = snapshot.body ++ (_ ++ []) by rw [List.append_nil]; rfl)
      (length_body snapshot) (UInt32.toNat_lt _)
  simp only [decode, length_encode, ne_eq, not_true_eq_false, if_false, hmagic, hversion,
    Nat.lt_irrefl, hstored, hcovered, UInt32.ofNat_toNat, if_true, hdigest, happlied,
    UInt64.ofNat_toNat]

end Snapshot

namespace Fold

theorem digests_go_startingAt (fold : Fold) (initial current : Digest) (messages : List Message) :
    digests.go (fold.startingAt initial) current messages = digests.go fold current messages := by
  induction messages generalizing current with
  | nil => rfl
  | cons message rest ih =>
    rw [digests.go, digests.go, ih]
    rfl

theorem digests_startingAt_cons (fold : Fold) (initial : Digest) (message : Message)
    (rest : List Message) :
    (fold.startingAt initial).digests (message :: rest) =
      initial :: (fold.startingAt (fold.step initial message)).digests rest := by
  simp only [digests, digests.go, digests_go_startingAt]
  rfl

end Fold

namespace StateStore

theorem applyWith_eq (mishap : Option Replacement.Mishap) (message : Message) (state : StateStore)
    (disk : FileSystem) :
    applyWith mishap message (state, disk) =
      if state.isClosed then .error (.closed stateName) (state, disk)
      else
        match FileSystem.replaceWith mishap state.path (state.next message).encode disk with
        | .error e disk' => .error (.ofStorageOs e) (state, disk')
        | .ok _ disk' =>
          .ok (state.next message).digest ({ state with snapshot := state.next message }, disk') :=
  rfl

theorem apply_eq (message : Message) (state : StateStore) (disk : FileSystem) :
    apply message (state, disk) =
      if state.isClosed then .error (.closed stateName) (state, disk)
      else
        match FileSystem.replaceWith none state.path (state.next message).encode disk with
        | .error e disk' => .error (.ofStorageOs e) (state, disk')
        | .ok _ disk' =>
          .ok (state.next message).digest ({ state with snapshot := state.next message }, disk') :=
  applyWith_eq none message state disk

end StateStore

end Replica
