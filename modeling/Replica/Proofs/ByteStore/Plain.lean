/-
Byte stores as plain bytes.

What a call answers and what it leaves can be told from the bytes in the store
(`DeviceStep.told`, `DeviceStep.leaves`), and a store `Tracks` bytes if all its calls do
as these say. Bytes in memory do so as long as no fault is planned, and an open file
does so as long as nobody else writes to it, whatever others do to the rest of the file
system. Two stores that track the same bytes cannot be told apart, so an open file is as
good as bytes in memory (`file_same_as_memory`).
-/
import Replica.Proofs.ByteStore.OpenFile
import Replica.Proofs.Disk.Failure
import Replica.Proofs.Log.Memory
import Replica.Workbench.Stores

namespace Replica

open Workbench

/-! ## Calls over plain bytes -/

namespace Workbench.DeviceStep

/-- What a call answers over these bytes. -/
def told : DeviceStep → Bytes → Except StorageError Reply
  | append _, bytes | size, bytes => .ok (.number bytes.length)
  | readAt offset len, bytes =>
    if offset + len ≤ bytes.length then .ok (.bytes (some ((bytes.drop offset).take len)))
    else .error (.readPastEnd offset len bytes.length)
  | readAll, bytes => .ok (.bytes (some bytes))
  | flush, _ | sync, _ => .ok .done
  | truncate n, bytes =>
    if n ≤ bytes.length then .ok .done else .error (.truncateBeyondEnd n bytes.length)

/-- The bytes that a call leaves. A truncation behind the end takes them all. -/
def leaves : DeviceStep → Bytes → Bytes
  | append data, bytes => bytes ++ data
  | truncate n, bytes => bytes.take n
  | readAt .., bytes | readAll, bytes | size, bytes | flush, bytes | sync, bytes => bytes

variable {σ ω : Type} [ByteStore σ ω]

/-- The answer of a store to a call. -/
def answer (step : DeviceStep) (s : σ × ω) : Except StorageError Reply :=
  (outcome (deviceStep step) s).1

/-- The store and its world after a call, whatever came of it. -/
def next (step : DeviceStep) (s : σ × ω) : σ × ω := (outcome (deviceStep step) s).2

variable {step : DeviceStep} {s s' : σ × ω} {bytes : Bytes} {R : σ × ω → Bytes → Prop}

theorem agrees_of_ok {α : Type} {act : StoreAction σ ω α} {a : α} (reply : α → Reply)
    (hstep : deviceStep step = act >>= fun a => pure (reply a)) (hrun : act s = .ok a s')
    (htold : step.told bytes = .ok (reply a)) (hleaves : R s' (step.leaves bytes)) :
    step.answer s = step.told bytes ∧ R (step.next s) (step.leaves bytes) := by
  have hout : outcome (deviceStep step) s = (.ok (reply a), s') := by
    rw [hstep]
    simp only [outcome, bind, EStateM.bind, hrun]
    rfl
  rw [answer, next, hout, htold]
  exact ⟨rfl, hleaves⟩

theorem agrees_of_error {α : Type} {act : StoreAction σ ω α} {e : StorageError} (reply : α → Reply)
    (hstep : deviceStep step = act >>= fun a => pure (reply a)) (hrun : act s = .error e s')
    (htold : step.told bytes = .error e) (hleaves : R s' (step.leaves bytes)) :
    step.answer s = step.told bytes ∧ R (step.next s) (step.leaves bytes) := by
  have hout : outcome (deviceStep step) s = (.error e, s') := by
    rw [hstep]
    simp only [outcome, bind, EStateM.bind, hrun]
  rw [answer, next, hout, htold]
  exact ⟨rfl, hleaves⟩

theorem agrees_of_look {look : σ × ω → Except StorageError Bytes}
    (hstep : deviceStep step = observe look >>= fun found => pure (Reply.bytes (some found)))
    (htold : step.told bytes = (look s).map fun found => Reply.bytes (some found))
    (hleaves : R s (step.leaves bytes)) :
    step.answer s = step.told bytes ∧ R (step.next s) (step.leaves bytes) := by
  cases hlook : look s with
  | ok found =>
    rw [hlook] at htold
    exact agrees_of_ok (fun found => .bytes (some found)) hstep (by rw [observe, hlook]) htold hleaves
  | error e =>
    rw [hlook] at htold
    exact agrees_of_error (fun found => .bytes (some found)) hstep (by rw [observe, hlook]) htold
      hleaves

end Workbench.DeviceStep

/-! ## Runs -/

/-- What happens next to a store: one of its calls, or something that others do in its world. -/
inductive Turn (ω : Type)
  | call (step : DeviceStep)
  | others (world : ω)

namespace Turn

variable {σ ω : Type} [ByteStore σ ω]

/-- The store and its world after a turn. -/
def next : Turn ω → σ × ω → σ × ω
  | call step, s => step.next s
  | others world, (store, _) => (store, world)

/-- The store and its world after turns one after another. -/
def run (turns : List (Turn ω)) (s : σ × ω) : σ × ω := turns.foldl (fun s turn => turn.next s) s

/-- The answers to the calls of a run, in order. -/
def answers : List (Turn ω) → σ × ω → List (Except StorageError Reply)
  | [], _ => []
  | call step :: turns, s => step.answer s :: answers turns (step.next s)
  | others world :: turns, (store, _) => answers turns (store, world)

/-- Whether others leave as it is what `Same` compares. -/
def Undisturbed (Same : ω → ω → Prop) : List (Turn ω) → σ × ω → Prop
  | [], _ => True
  | call step :: turns, s => Undisturbed Same turns (step.next s)
  | others world :: turns, (store, before) => Same before world ∧ Undisturbed Same turns (store, world)

/-- The turn of a store that has no world around it. -/
def alone : Turn ω → Turn Unit
  | call step => call step
  | others _ => others ()

/-- **Appended bytes are read back**: every part of what was appended that no truncation since cut into
is read where the append said it stands. -/
def ReadsBack (turns : List (Turn ω)) (s : σ × ω) : Prop :=
  ∀ before data after, turns = before ++ call (.append data) :: after →
    ∃ offset, (DeviceStep.append data).answer (run before s) = .ok (.number offset) ∧
      ∀ start len, start + len ≤ data.length →
        (∀ size, call (.truncate size) ∈ after → offset + start + len ≤ size) →
          (DeviceStep.readAt (offset + start) len).answer (run turns s) =
            .ok (.bytes (some ((data.drop start).take len)))

/-- The bytes that a turn leaves. -/
def leaves : Turn ω → Bytes → Bytes
  | call step, bytes => step.leaves bytes
  | others _, bytes => bytes

/-- What the calls of a run answer over these bytes. -/
def told : List (Turn ω) → Bytes → List (Except StorageError Reply)
  | [], _ => []
  | call step :: turns, bytes => step.told bytes :: told turns (step.leaves bytes)
  | others _ :: turns, bytes => told turns bytes

/-- The bytes that a run leaves. -/
def leavesAlong (turns : List (Turn ω)) (bytes : Bytes) : Bytes :=
  turns.foldl (fun bytes turn => turn.leaves bytes) bytes

theorem leavesAlong_append (before after : List (Turn ω)) (bytes : Bytes) :
    leavesAlong (before ++ after) bytes = leavesAlong after (leavesAlong before bytes) :=
  List.foldl_append

theorem told_alone (turns : List (Turn ω)) (bytes : Bytes) :
    told (turns.map alone) bytes = told turns bytes := by
  induction turns generalizing bytes with
  | nil => rfl
  | cons turn turns ih =>
    cases turn with
    | call step => exact congrArg _ (ih _)
    | others world => exact ih bytes

theorem leavesAlong_alone (turns : List (Turn ω)) (bytes : Bytes) :
    leavesAlong (turns.map alone) bytes = leavesAlong turns bytes := by
  induction turns generalizing bytes with
  | nil => rfl
  | cons turn turns ih => cases turn <;> exact ih _

theorem undisturbed_append {Same : ω → ω → Prop} {before after : List (Turn ω)} {s : σ × ω}
    (h : Undisturbed Same (before ++ after) s) : Undisturbed Same before s := by
  induction before generalizing s with
  | nil => trivial
  | cons turn before ih =>
    cases turn with
    | call step => exact ih h
    | others world => exact ⟨h.1, ih h.2⟩

theorem undisturbed_alone {τ : Type} [ByteStore τ Unit] (turns : List (Turn ω)) (s : τ × Unit) :
    Undisturbed (fun _ _ => True) (turns.map alone) s := by
  induction turns generalizing s with
  | nil => trivial
  | cons turn turns ih =>
    cases turn with
    | call step => exact ih _
    | others world => exact ⟨trivial, ih _⟩

/-! ## Bytes that stay -/

/-- These bytes stand at an offset of an image. -/
def StandsAt (piece : Bytes) (offset : Nat) (image : Bytes) : Prop :=
  ∃ front back, image = front ++ piece ++ back ∧ front.length = offset

variable {piece image : Bytes} {offset : Nat}

theorem StandsAt.told_readAt (h : StandsAt piece offset image) :
    (DeviceStep.readAt offset piece.length).told image = .ok (.bytes (some piece)) := by
  obtain ⟨front, back, rfl, rfl⟩ := h
  have hfits : front.length + piece.length ≤ (front ++ piece ++ back).length := by
    simp only [List.length_append]
    omega
  rw [DeviceStep.told, if_pos hfits, List.append_assoc, List.drop_left, List.take_left]

theorem StandsAt.take (h : StandsAt piece offset image) {size : Nat}
    (hsize : offset + piece.length ≤ size) : StandsAt piece offset (image.take size) := by
  obtain ⟨front, back, rfl, rfl⟩ := h
  refine ⟨front, back.take (size - (front ++ piece).length), ?_, rfl⟩
  rw [List.take_append, List.take_of_length_le (by rw [List.length_append]; exact hsize)]

theorem StandsAt.leaves {turn : Turn ω} (h : StandsAt piece offset image)
    (hcut : ∀ size, turn = call (.truncate size) → offset + piece.length ≤ size) :
    StandsAt piece offset (turn.leaves image) := by
  cases turn with
  | others world => exact h
  | call step =>
    cases step with
    | append data =>
      obtain ⟨front, back, rfl, hoffset⟩ := h
      exact ⟨front, back ++ data, by simp [Turn.leaves, DeviceStep.leaves], hoffset⟩
    | truncate size => exact h.take (hcut size rfl)
    | readAt _ _ | readAll | size | flush | sync => exact h

theorem StandsAt.leavesAlong {turns : List (Turn ω)} (h : StandsAt piece offset image)
    (hcut : ∀ size, call (.truncate size) ∈ turns → offset + piece.length ≤ size) :
    StandsAt piece offset (leavesAlong turns image) := by
  induction turns generalizing image with
  | nil => exact h
  | cons turn turns ih =>
    refine ih (h.leaves fun size hsize => hcut size ?_) fun size hmem =>
      hcut size (List.mem_cons_of_mem _ hmem)
    rw [hsize]
    exact List.mem_cons_self

end Turn

/-! ## Stores that track bytes -/

/-- **A store tracks bytes** through a relation that holds of it and them: each call answers as the
bytes tell and leaves the store so related to the bytes it leaves, and what others do has no part
in it. -/
structure Tracks {σ ω : Type} [ByteStore σ ω] (Same : ω → ω → Prop) (R : σ × ω → Bytes → Prop) :
    Prop where
  call {s : σ × ω} {bytes : Bytes} (h : R s bytes) (step : DeviceStep) :
    step.answer s = step.told bytes ∧ R (step.next s) (step.leaves bytes)
  others {store : σ} {before world : ω} {bytes : Bytes} (h : R (store, before) bytes)
    (hsame : Same before world) : R (store, world) bytes

namespace Tracks

open Turn

variable {σ ω : Type} [ByteStore σ ω] {Same : ω → ω → Prop} {R : σ × ω → Bytes → Prop}
  {s : σ × ω} {bytes : Bytes} {turns : List (Turn ω)}

/-- **A whole run** answers as the bytes tell and leaves the bytes they leave. -/
theorem run (htracks : Tracks Same R) (h : R s bytes) (hothers : Undisturbed Same turns s) :
    answers turns s = told turns bytes ∧ R (Turn.run turns s) (leavesAlong turns bytes) := by
  induction turns generalizing s bytes with
  | nil => exact ⟨rfl, h⟩
  | cons turn turns ih =>
    cases turn with
    | call step =>
      obtain ⟨hanswer, hnext⟩ := htracks.call h step
      obtain ⟨hanswers, hrun⟩ := ih hnext hothers
      exact ⟨by rw [answers, told, hanswer, hanswers], hrun⟩
    | others world =>
      obtain ⟨store, before⟩ := s
      exact ih (htracks.others h hothers.1) hothers.2

theorem readsBack (htracks : Tracks Same R) (h : R s bytes) (hothers : Undisturbed Same turns s) :
    ReadsBack turns s := by
  rintro before data after rfl
  obtain ⟨-, hbefore⟩ := htracks.run h (undisturbed_append hothers)
  obtain ⟨-, hrun⟩ := htracks.run h hothers
  refine ⟨(leavesAlong before bytes).length, (htracks.call hbefore _).1, fun start len hlen hcut => ?_⟩
  generalize hpiece : (data.drop start).take len = piece
  have hsize : piece.length = len := by
    rw [← hpiece, List.length_take, List.length_drop]
    omega
  -- the piece stands in the bytes as they were appended, and nothing behind that cuts into it
  have hstands : StandsAt piece ((leavesAlong before bytes).length + start)
      (leavesAlong before bytes ++ data) := by
    refine ⟨leavesAlong before bytes ++ data.take start, (data.drop start).drop len, ?_, ?_⟩
    · rw [← hpiece, List.append_assoc, List.append_assoc, List.take_append_drop,
        List.take_append_drop]
    · rw [List.length_append, List.length_take]
      omega
  have hspared : ∀ size, Turn.call (.truncate size) ∈ after →
      (leavesAlong before bytes).length + start + piece.length ≤ size := by
    rw [hsize]
    exact hcut
  have hkept := hstands.leavesAlong hspared
  rw [(htracks.call hrun _).1]
  have htold := hkept.told_readAt
  rw [hsize] at htold
  rw [← htold, leavesAlong_append]
  rfl

end Tracks

/-! ## Words -/

/-- The sum of two words, or the greatest word if no word is so great. -/
def saturatingAdd (a b : UInt64) : UInt64 := UInt64.ofNat (min (a.toNat + b.toNat) (UInt64.size - 1))

theorem toNat_saturatingAdd (a b : UInt64) :
    (saturatingAdd a b).toNat = min (a.toNat + b.toNat) (UInt64.size - 1) :=
  UInt64.toNat_ofNat_of_lt' (Nat.lt_of_le_of_lt (Nat.min_le_right ..) (by decide))

/-- A range is refused exactly if the check in words refuses it, where a store has no more bytes than
words can count. -/
theorem told_readAt_error_iff {bytes : Bytes} {size : UInt64} (hsize : size.toNat = bytes.length)
    (hfits : size.toNat < UInt64.size - 1) (offset len : UInt64) :
    (DeviceStep.readAt offset.toNat len.toNat).told bytes =
        .error (.readPastEnd offset.toNat len.toNat size.toNat) ↔
      size < offset ∨ size < saturatingAdd offset len := by
  rw [UInt64.lt_iff_toNat_lt, UInt64.lt_iff_toNat_lt, toNat_saturatingAdd, DeviceStep.told, hsize]
  rw [hsize] at hfits
  -- a sum that stops at the greatest word is still greater than every size below that word
  split
  · simp only [reduceCtorEq, false_iff]
    omega
  · simp only [true_iff]
    omega

/-! ## Bytes in memory -/

namespace MemoryStore

theorem readAt_eq (store : MemoryStore) (world : Unit) (offset len : Nat) :
    ByteStore.readAt store world offset len =
      if offset + len ≤ store.bytes.length then .ok ((store.bytes.drop offset).take len)
      else .error (.readPastEnd offset len store.bytes.length) := by
  show store.readAt offset len = _
  rw [readAt, ByteStore.checkRange]
  by_cases hrange : offset + len ≤ store.bytes.length
  · rw [if_neg (by omega), if_pos hrange]
  · rw [if_pos (by omega), if_neg hrange]

/-- The store holds these bytes and no fault is planned. -/
def Plain (s : MemoryStore × Unit) (bytes : Bytes) : Prop := s.1.bytes = bytes ∧ s.1.plan = .none

theorem tracks_plain : Tracks (fun _ _ => True) Plain where
  call := by
    rintro ⟨⟨bytes, plan, counts⟩, world⟩ _ ⟨rfl, rfl⟩ step
    cases step with
    | readAt offset len =>
      refine DeviceStep.agrees_of_look rfl ?_ ⟨rfl, rfl⟩
      dsimp only
      rw [readAt_eq, DeviceStep.told]
      split <;> rfl
    | readAll =>
      refine DeviceStep.agrees_of_look rfl ?_ ⟨rfl, rfl⟩
      dsimp only
      rw [readAll_eq]
      rfl
    | truncate n =>
      by_cases hshort : n ≤ bytes.length
      · have hrun : truncate n (⟨bytes, .none, counts⟩, world) = .ok () (⟨bytes.take n, .none,
            { counts with truncate := counts.truncate + 1 }⟩, world) := by
          simp [truncate, FaultPlan.none, Nat.not_lt.2 hshort]
        refine DeviceStep.agrees_of_ok (fun _ => .done) rfl hrun ?_ ⟨rfl, rfl⟩
        rw [DeviceStep.told, if_pos hshort]
      · have hrun : truncate n (⟨bytes, .none, counts⟩, world) =
            .error (.truncateBeyondEnd n bytes.length) (⟨bytes, .none,
              { counts with truncate := counts.truncate + 1 }⟩, world) := by
          simp [truncate, FaultPlan.none, Nat.not_le.1 hshort]
        refine DeviceStep.agrees_of_error (fun _ => .done) rfl hrun ?_
          ⟨(List.take_of_length_le (Nat.le_of_not_le hshort)).symm, rfl⟩
        rw [DeviceStep.told, if_neg hshort]
    | append _ | size | flush | sync => exact ⟨rfl, rfl, rfl⟩
  others h _ := h

end MemoryStore

/-! ## Open files -/

namespace OpenFile

variable {file : OpenFile} {disk : FileSystem} {n : Nat} {bytes : Bytes}

/-- The file is open for writing and knows its size, and it holds these bytes. -/
structure Shows (n : Nat) (s : OpenFile × FileSystem) (bytes : Bytes) : Prop where
  isOn : s.1.IsOn n
  size_eq : s.1.size = bytes.length
  bytes_eq : s.2.bytes n = bytes

theorem readAt_eq (h : Shows n (file, disk) bytes) (offset len : Nat) :
    ByteStore.readAt file disk offset len =
      if offset + len ≤ bytes.length then .ok ((bytes.drop offset).take len)
      else .error (.readPastEnd offset len bytes.length) := by
  obtain ⟨⟨htarget, -⟩, hsize, hbytes⟩ := h
  show file.readAt disk offset len = _
  rw [readAt, ByteStore.checkRange, hsize]
  by_cases hrange : offset + len ≤ bytes.length
  · have hlen : ((bytes.drop offset).take len).length = len := by
      rw [List.length_take, List.length_drop]
      omega
    rw [if_neg (by omega), if_pos hrange]
    dsimp only
    by_cases hzero : len = 0
    · rw [if_pos hzero, hzero, List.take_zero]
    · rw [if_neg hzero, htarget, FileSystem.readRange, hbytes, if_pos hlen]
  · rw [if_pos (by omega), if_neg hrange]

/-- **An open file tracks its bytes**, as long as others do not write to it. -/
theorem tracks_shows (n : Nat) :
    Tracks (fun before disk : FileSystem => disk.bytes n = before.bytes n) (Shows n) where
  call := by
    rintro ⟨file, disk⟩ bytes h step
    have hon : file.IsOn n := h.isOn
    have hsize : file.size = bytes.length := h.size_eq
    have hbytes : disk.bytes n = bytes := h.bytes_eq
    cases step with
    | readAt offset len =>
      refine DeviceStep.agrees_of_look rfl ?_ h
      dsimp only
      rw [readAt_eq h, DeviceStep.told]
      split <;> rfl
    | readAll =>
      refine DeviceStep.agrees_of_look rfl ?_ h
      dsimp only
      rw [readAll_eq hon (by rw [hbytes, hsize]), hbytes]
      rfl
    | append data =>
      by_cases hdata : data = []
      · subst hdata
        refine DeviceStep.agrees_of_ok .number rfl (append_nil hon disk) ?_ ?_
        · rw [DeviceStep.told, hsize]
        · rwa [DeviceStep.leaves, List.append_nil]
      · refine DeviceStep.agrees_of_ok .number rfl (append_eq hon disk hdata) ?_ ⟨hon, ?_, ?_⟩
        · rw [DeviceStep.told, hsize]
        · rw [DeviceStep.leaves, List.length_append, ← hsize]
          rfl
        · rw [DeviceStep.leaves, FileSystem.bytes_setBytes_self, hbytes]
    | size => exact ⟨congrArg (fun n => Except.ok (Reply.number n)) hsize, h⟩
    | flush => exact ⟨rfl, h⟩
    | sync => exact DeviceStep.agrees_of_ok (fun _ => .done) rfl (sync_eq hon disk) rfl h
    | truncate size =>
      by_cases hshort : size ≤ bytes.length
      · refine DeviceStep.agrees_of_ok (fun _ => .done) rfl
          (truncate_of_le hon disk (hsize ▸ hshort)) ?_ ⟨hon, ?_, ?_⟩
        · rw [DeviceStep.told, if_pos hshort]
        · rw [DeviceStep.leaves, List.length_take, Nat.min_eq_left hshort]
          rfl
        · rw [DeviceStep.leaves, FileSystem.bytes_setBytes_self, hbytes,
            Nat.sub_eq_zero_of_le hshort, List.replicate_zero, List.append_nil]
      · refine DeviceStep.agrees_of_error (fun _ => .done) rfl
          (truncate_of_lt hon disk (hsize ▸ Nat.not_le.1 hshort)) ?_ ?_
        · rw [DeviceStep.told, if_neg hshort, hsize]
        · rwa [DeviceStep.leaves, List.take_of_length_le (Nat.le_of_not_le hshort)]
  others := by
    rintro file before disk bytes ⟨hon, hsize, hbytes⟩ hsame
    exact ⟨hon, hsize, hsame.trans hbytes⟩

theorem open_of_readAll {path : String} (h : disk.readAll path = .ok bytes) :
    ∃ file n, OpenFile.open path disk = .ok file disk ∧ Shows n (file, disk) bytes := by
  obtain ⟨n, hlookup, rfl⟩ := FileSystem.readAll_ok h
  obtain ⟨here, name, hresolve, hshort, hentry⟩ := FileSystem.lookup_file hlookup
  have hopen : FileSystem.openWrite path disk = .ok (.file n) disk := by
    simp only [FileSystem.openWrite, bind, EStateM.bind, get_apply, hresolve,
      FileSystem.find_of_short disk here hshort, hentry]
    rfl
  refine ⟨ofEntry path false (.file n) disk, n, ?_, ⟨rfl, rfl⟩, rfl, rfl⟩
  rw [open_eq, hopen]

end OpenFile

open OpenFile

/-! ## The two side by side -/

/-- **An open file is as good as bytes in memory.** A path that leads to a file is opened on its
bytes. Call the open file and bytes in memory in the same way, while others do to the file system
what they like but do not write to that file: the answers are the same, failures and what they say
included, and after every call so are the bytes. The size that the open file remembers is that of
the file; what was appended is read back where it was written, unless it was cut off; cutting off
never makes a store longer; and a range is refused exactly if sums of words that stop at the
greatest word say that it reaches behind the end. -/
theorem file_same_as_memory {disk : FileSystem} {path : String} {image : Bytes}
    (hfile : disk.readAll path = .ok image) :
    ∃ file n, OpenFile.open path disk = .ok file disk ∧ file.target = .file n ∧
      ∀ turns : List (Turn FileSystem),
        Turn.Undisturbed (fun before disk => disk.bytes n = before.bytes n) turns (file, disk) →
          let memory : MemoryStore × Unit := (.ofBytes image, ())
          let calls := turns.map Turn.alone
          let onFile := Turn.run turns (file, disk)
          let inMemory := Turn.run calls memory
          Turn.answers turns (file, disk) = Turn.answers calls memory ∧
            onFile.2.bytes n = inMemory.1.bytes ∧
            onFile.1.size = (onFile.2.bytes n).length ∧
            Turn.ReadsBack turns (file, disk) ∧ Turn.ReadsBack calls memory ∧
            (∀ size, ((DeviceStep.truncate size).next onFile).2.bytes n <+: onFile.2.bytes n ∧
              ((DeviceStep.truncate size).next inMemory).1.bytes <+: inMemory.1.bytes) ∧
            ∀ size offset len : UInt64, size.toNat = onFile.1.size → size.toNat < UInt64.size - 1 →
              ((DeviceStep.readAt offset.toNat len.toNat).answer onFile =
                  .error (.readPastEnd offset.toNat len.toNat size.toNat) ↔
                size < offset ∨ size < saturatingAdd offset len) := by
  obtain ⟨file, n, hopen, hshows⟩ := open_of_readAll hfile
  refine ⟨file, n, hopen, hshows.isOn.1, fun turns hothers => ?_⟩
  have hplain : MemoryStore.Plain (.ofBytes image, ()) image := ⟨rfl, rfl⟩
  have hquiet := Turn.undisturbed_alone turns (MemoryStore.ofBytes image, ())
  obtain ⟨hanswers, honFile⟩ := (tracks_shows n).run hshows hothers
  obtain ⟨hanswers', hinMemory⟩ := MemoryStore.tracks_plain.run hplain hquiet
  rw [Turn.told_alone] at hanswers'
  rw [Turn.leavesAlong_alone] at hinMemory
  refine ⟨hanswers.trans hanswers'.symm, honFile.bytes_eq.trans hinMemory.1.symm, ?_,
    (tracks_shows n).readsBack hshows hothers, MemoryStore.tracks_plain.readsBack hplain hquiet,
    fun size => ⟨?_, ?_⟩, fun size offset len hsize hfits => ?_⟩
  · rw [honFile.bytes_eq, honFile.size_eq]
  · rw [((tracks_shows n).call honFile (.truncate size)).2.bytes_eq, honFile.bytes_eq]
    exact List.take_prefix size _
  · rw [(MemoryStore.tracks_plain.call hinMemory (.truncate size)).2.1, hinMemory.1]
    exact List.take_prefix size _
  · rw [((tracks_shows n).call honFile (.readAt offset.toNat len.toNat)).1]
    exact told_readAt_error_iff (hsize.trans honFile.size_eq) hfits offset len

/-- A file system with a file of three bytes. -/
def threeBytes : FileSystem := (outcome (FileSystem.writeAll "/log" [1, 2, 3]) {}).2

/-- Two bytes are appended and one of them is cut off again, while somebody takes a lock. What reaches
behind the end is refused, however great it is. -/
theorem file_same_as_memory_grownAndCut :
    threeBytes.readAll "/log" = .ok [1, 2, 3] ∧
      ∃ file, OpenFile.open "/log" threeBytes = .ok file threeBytes ∧
        let grown := ((DeviceStep.append [4, 5]).next (file, threeBytes)).2
        Turn.answers [.call (.append [4, 5]), .others { grown with locked := [.directory] },
            .call (.truncate 4), .call .readAll, .call (.readAt 4 0),
            .call (.readAt 1 (UInt64.size - 1)), .call (.truncate (UInt64.size - 1))]
            (file, threeBytes) =
          [.ok (.number 3), .ok .done, .ok (.bytes (some [1, 2, 3, 4])), .ok (.bytes (some [])),
            .error (.readPastEnd 1 (UInt64.size - 1) 4),
            .error (.truncateBeyondEnd (UInt64.size - 1) 4)] := by
  have hfile : threeBytes.readAll "/log" = .ok [1, 2, 3] :=
    FileSystem.readAll_eq_ok_iff.2 (by decide +kernel)
  obtain ⟨file, n, hopen, -, hrun⟩ := file_same_as_memory hfile
  refine ⟨hfile, file, hopen, ?_⟩
  obtain ⟨hanswers, -⟩ := hrun [.call (.append [4, 5]),
    .others { ((DeviceStep.append [4, 5]).next (file, threeBytes)).2 with locked := [.directory] },
    .call (.truncate 4), .call .readAll, .call (.readAt 4 0),
    .call (.readAt 1 (UInt64.size - 1)), .call (.truncate (UInt64.size - 1))] ⟨rfl, trivial⟩
  exact hanswers.trans rfl

end Replica
