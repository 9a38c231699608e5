/-
A burst of damage in a log.

A frame whose length field still says where it ends cannot fit its checksum once a
burst has touched it, in what the checksum covers, in the checksum or across the
two (`not_fits_of_burst`). So a frame that is hit is no record. With bytes behind
it the scan fails; where nothing stands behind it, it is the torn tail of a log
whose other records are all there (`losesLast_of_burst`, by induction on the
entries). A burst makes no record that was not written.
-/
import Replica.Proofs.Log.Cut
import Replica.Proofs.Log.Damage

namespace Replica

open Scan

theorem payloadLengthOf_eq_of_getElem? {as bs : Bytes}
    (h : ∀ i, InLengthField i → as[i]? = bs[i]?) : payloadLengthOf as = payloadLengthOf bs := by
  have hfield : (as.drop 7).take 4 = (bs.drop 7).take 4 := by
    refine List.ext_getElem? fun i => ?_
    rw [List.getElem?_take, List.getElem?_take]
    split
    · rw [List.getElem?_drop, List.getElem?_drop, h (7 + i) ⟨by omega, by omega⟩]
    · rfl
  rw [payloadLengthOf, payloadLengthOf, hfield]

/-! ## An image with a burst in it -/

/-- **All that a scan misses is the last record**: it finds the others, takes the frame of the last
one for torn, and what differs between the two images lies in that frame. -/
structure LosesLast (offset : Nat) (entries : List (RecordKind × Bytes)) (image image' : Bytes)
    (last : LogRecord) (found : Scan) : Prop where
  records : recordsFrom offset entries = found.records ++ [last]
  validLength : found.validLength = last.offset
  torn : ∃ reason, found.tornTail = some ⟨last.offset, Frame.length last.payload.length, reason⟩
  changed {i : Nat} (h : image'[i]? ≠ image[i]?) : last.offset ≤ offset + i ∧ offset + i < last.finish

theorem LosesLast.behind {kind : RecordKind} {payload frame image image' : Bytes}
    {entries : List (RecordKind × Bytes)} {offset : Nat} {last : LogRecord} {found : Scan}
    (h : LosesLast (offset + Frame.length payload.length) entries image image' last found)
    (hframe : frame.length = Frame.length payload.length) :
    LosesLast offset ((kind, payload) :: entries) (frame ++ image) (frame ++ image') last
      (found.behind [⟨offset, kind, payload⟩]) := by
  refine ⟨?_, h.validLength, h.torn, ?_⟩
  · simp only [recordsFrom, h.records, Scan.behind, List.nil_append, List.cons_append]
  · intro i hi
    have hle : frame.length ≤ i := by
      refine Nat.not_lt.1 fun hlt => hi ?_
      rw [List.getElem?_append_left hlt, List.getElem?_append_left hlt]
    rw [List.getElem?_append_right hle, List.getElem?_append_right hle] at hi
    have := h.changed hi
    omega

section Frames

variable {format : LogFormat} {kind : RecordKind} {payload : Bytes} {start : Nat} {rest' : Bytes}

theorem not_all_zero_of_burst {next : RecordKind × Bytes} {more : Bytes}
    (hburst : AgreeOutside start (Frame.toBytes format.magic kind payload ++
      (Frame.toBytes format.magic next.1 next.2 ++ more)) rest') :
    rest'.all (· = 0) = false := by
  have hkind (k : RecordKind) (p : Bytes) :
      (Frame.toBytes format.magic k p)[6]? = some k.toByte := by
    simp [Frame.toBytes, Frame.body, Magic.toBytes, littleEndian]
  have hlong (k : RecordKind) (p : Bytes) : 15 ≤ (Frame.toBytes format.magic k p).length := by
    rw [Frame.length_toBytes, Frame.length, Frame.headerLength, Frame.checksumLength]
    omega
  have hnonzero {i : Nat} {k : RecordKind} (h : rest'[i]? = some k.toByte) :
      rest'.all (· = 0) = false := by
    obtain ⟨hi, hget⟩ := List.getElem?_eq_some_iff.1 h
    refine not_all_zero_of_getElem hi ?_
    rw [hget]
    cases k <;> decide
  have hfirst := hlong kind payload
  by_cases hmissed : 6 < start ∨ start + 4 ≤ 6
  · refine hnonzero (i := 6) (k := kind) ?_
    rw [← hburst.outside hmissed, List.getElem?_append_left (by omega), hkind]
  · have hnext := hlong next.1 next.2
    refine hnonzero (i := (Frame.toBytes format.magic kind payload).length + 6) (k := next.1) ?_
    rw [← hburst.outside (by omega), List.getElem?_append_right (by omega), Nat.add_sub_cancel_left,
      List.getElem?_append_left (by omega), hkind]

/-- A frame that is hit by a burst is no record: it is the torn tail, and only if it is the last. -/
theorem scanFrom_of_burst_in_front (h : payload.length ≤ Frame.maxPayload) {offset : Nat}
    {entries : List (RecordKind × Bytes)}
    (hburst : AgreeOutside start
      (Frame.toBytes format.magic kind payload ++ (framesOf format.magic entries).flatten) rest')
    (hlength : ∀ i, InLengthField i → rest'[i]? =
      (Frame.toBytes format.magic kind payload ++ (framesOf format.magic entries).flatten)[i]?)
    (hne : rest'.take (Frame.length payload.length) ≠ Frame.toBytes format.magic kind payload)
    {found : Scan} (hscan : scanFrom format offset rest' = .ok found) :
    entries = [] ∧
      ∃ reason, found = ⟨[], offset, some ⟨offset, Frame.length payload.length, reason⟩⟩ := by
  have hintact := @intact_toBytes format offset kind payload h (framesOf format.magic entries).flatten
  have hframe := hintact.length_payload
  have hlen := hintact.length_le
  have hfield := payloadLengthOf_eq_of_getElem? hlength
  have hframe' : frameLength rest' = Frame.length payload.length := by
    rw [frameLength, hfield, ← frameLength, ← hframe]
  have hfits : ¬ Fits rest' := by
    refine not_fits_of_burst hburst hintact.fits hlen hfield ?_
    rw [← hframe, List.take_left' (Frame.length_toBytes ..)]
    exact hne
  cases entries with
  | nil =>
    -- The frame is all there is and has kept its length, so it can only be torn.
    have hall : rest'.length = Frame.length payload.length := by
      rw [← hburst.length_eq]
      simp [framesOf, Frame.length_toBytes]
    refine ⟨rfl, ?_⟩
    cases scanFrom_eq_ok_iff.1 hscan with
    | done => simp [Frame.length, Frame.headerLength, Frame.checksumLength] at hall
    | @torn _ _ reason => exact ⟨reason, by rw [hall]⟩
    | record hintact' => exact absurd hintact'.fits hfits
  | cons next entries =>
    -- Another frame follows, so a checksum that does not fit is damage.
    have hlonger : frameLength rest' < rest'.length := by
      rw [hframe', ← hburst.length_eq]
      simp only [framesOf, List.map_cons, List.flatten_cons, List.length_append, Frame.length_toBytes,
        Frame.length, Frame.headerLength]
      omega
    obtain ⟨error, hfront⟩ :=
      @front_damaged format offset rest' (not_all_zero_of_burst hburst) hlonger hfits
    cases scanFrom_eq_ok_iff.1 hscan with
    | done => simp at hlonger
    | torn _ htorn => rw [htorn] at hfront; cases hfront
    | record hintact' => exact absurd hintact'.fits hfits

end Frames

/-- **A scan that survives a burst misses no more than the last record.** -/
theorem losesLast_of_burst (format : LogFormat) {entries : List (RecordKind × Bytes)}
    (h : ∀ entry ∈ entries, entry.2.length ≤ Frame.maxPayload) {offset start : Nat}
    {image' : Bytes} (hburst : AgreeOutside start (framesOf format.magic entries).flatten image')
    (hne : image' ≠ (framesOf format.magic entries).flatten)
    (hlength : ∀ record ∈ recordsFrom offset entries, ∀ i, InLengthField i → ∀ j,
      offset + j = record.offset + i → image'[j]? = (framesOf format.magic entries).flatten[j]?)
    {found : Scan} (hscan : scanFrom format offset image' = .ok found) :
    ∃ last, LosesLast offset entries (framesOf format.magic entries).flatten image' last found := by
  induction entries generalizing offset start image' found with
  | nil =>
    have hnil : image' = [] := List.length_eq_zero_iff.1 hburst.length_eq.symm
    exact absurd hnil hne
  | cons entry entries ih =>
    obtain ⟨kind, payload⟩ := entry
    have hpayload : payload.length ≤ Frame.maxPayload := h _ (List.mem_cons_self ..)
    have hsize := Frame.length_toBytes format.magic kind payload
    have hframes : (framesOf format.magic ((kind, payload) :: entries)).flatten =
        Frame.toBytes format.magic kind payload ++ (framesOf format.magic entries).flatten := rfl
    rw [hframes] at hburst hne hlength ⊢
    by_cases hwhole : image'.take (Frame.length payload.length) =
        Frame.toBytes format.magic kind payload
    · -- The burst is behind this frame, and the scan goes on there.
      obtain ⟨tail, rfl⟩ : ∃ tail, image' = Frame.toBytes format.magic kind payload ++ tail :=
        ⟨_, by rw [← hwhole, List.take_append_drop]⟩
      have hdrop := hburst.drop (Frame.toBytes format.magic kind payload).length
      rw [List.drop_left, List.drop_left] at hdrop
      rw [(walk_toBytes format offset hpayload).scanFrom_append rfl, hsize] at hscan
      cases hrest : scanFrom format (offset + Frame.length payload.length) tail with
      | error e => rw [hrest] at hscan; cases hscan
      | ok found =>
        rw [hrest] at hscan
        cases hscan
        have hlength' : ∀ record ∈ recordsFrom (offset + Frame.length payload.length) entries,
            ∀ i, InLengthField i → ∀ j, offset + Frame.length payload.length + j = record.offset + i →
              tail[j]? = (framesOf format.magic entries).flatten[j]? := by
          intro record hmem i hi j hj
          have hsame := hlength record (List.mem_cons_of_mem _ hmem) i hi
            (Frame.length payload.length + j) (by omega)
          rw [← hsize, List.getElem?_append_right (Nat.le_add_right ..),
            List.getElem?_append_right (Nat.le_add_right ..), Nat.add_sub_cancel_left] at hsame
          exact hsame
        obtain ⟨last, hlast⟩ := ih (fun other hother => h other (List.mem_cons_of_mem _ hother)) hdrop
          (fun heq => hne (by rw [heq])) hlength' hrest
        exact ⟨last, hlast.behind hsize⟩
    · -- The burst hits this frame, which is then the last.
      obtain ⟨rfl, reason, rfl⟩ := scanFrom_of_burst_in_front hpayload hburst
        (fun i hi => hlength _ (List.mem_cons_self ..) i hi i rfl) hwhole hscan
      refine ⟨⟨offset, kind, payload⟩, rfl, rfl, ⟨reason, rfl⟩, fun {i} hi => ⟨Nat.le_add_right .., ?_⟩⟩
      have hlt : i < Frame.length payload.length := by
        refine Nat.not_le.1 fun hle => hi ?_
        have hall := hburst.length_eq
        rw [show (framesOf format.magic []).flatten = [] from rfl, List.append_nil] at hall ⊢
        rw [List.getElem?_eq_none (by omega), List.getElem?_eq_none (by omega)]
      exact Nat.add_lt_add_left hlt offset

/-- **Damage never invents a record.** Change the image of framed entries within four bytes in a row,
and in no length field. If the image still scans, then the change is in the last frame, which is the
torn tail, and the records in front of it are found as they were written; else the scan fails with
a corruption error. -/
theorem scan_burst (format : LogFormat) {entries : List (RecordKind × Bytes)} {frames : List Bytes}
    (hframes : entries.mapM (fun entry => Frame.encode format.magic entry.1 entry.2) = .ok frames)
    {start : Nat} {image : Bytes} (hburst : AgreeOutside start frames.flatten image)
    (hne : image ≠ frames.flatten)
    (hlength : ∀ record ∈ recordsFrom 0 entries, ∀ i, InLengthField i →
      image[record.offset + i]? = frames.flatten[record.offset + i]?) :
    match scan format image with
    | .error error => error.isCorruption = true
    | .ok found => ∃ last, recordsFrom 0 entries = found.records ++ [last] ∧
        (∀ i, image[i]? ≠ frames.flatten[i]? → last.offset ≤ i ∧ i < last.finish) ∧
        found.validLength = last.offset ∧
        ∃ reason, found.tornTail = some ⟨last.offset, Frame.length last.payload.length, reason⟩ := by
  obtain ⟨hfits, rfl⟩ := mapM_encode_eq_ok_iff.1 hframes
  have hlength' : ∀ record ∈ recordsFrom 0 entries, ∀ i, InLengthField i → ∀ j,
      0 + j = record.offset + i → image[j]? = (framesOf format.magic entries).flatten[j]? := by
    intro record hmem i hi j hj
    rw [Nat.zero_add] at hj
    rw [hj]
    exact hlength record hmem i hi
  cases hscan : scan format image with
  | error error => exact isCorruption_of_scan hscan
  | ok found =>
    obtain ⟨last, hlast⟩ := losesLast_of_burst format hfits hburst hne hlength' hscan
    refine ⟨last, hlast.records, fun i hi => ?_, hlast.validLength, hlast.torn⟩
    simpa using hlast.changed hi

/-- A burst across the checksum of one frame and the magic of the next fails the scan: what it
changed is not all in the last frame. -/
theorem scan_burst_of_pair :
    ∃ error, scan pushFormat (([pushFrame, pushFrame].flatten.set 13 0).set 16 0) = .error error ∧
      error.isCorruption = true := by
  generalize himage : [pushFrame, pushFrame].flatten = image
  have hchanged : ((image.set 13 0).set 16 0)[13]? ≠ image[13]? := by
    rw [← himage]
    decide +kernel
  have hburst := ((AgreeOutside.refl 13 image).set 0 (Nat.le_refl 13) (by decide)).set 0
    (show 13 ≤ 16 by decide) (by decide)
  have hlength : ∀ record ∈ recordsFrom 0 [(.push, []), (.push, [])], ∀ i, InLengthField i →
      ((image.set 13 0).set 16 0)[record.offset + i]? = image[record.offset + i]? := by
    intro record hmem i ⟨hle, hlt⟩
    have hoffset : record.offset = 0 ∨ record.offset = 15 := by
      revert record
      decide
    rw [List.getElem?_set_ne (by omega), List.getElem?_set_ne (by omega)]
  subst himage
  have hscan := @scan_burst pushFormat [(.push, []), (.push, [])] [pushFrame, pushFrame] rfl 13 _
    hburst (fun heq => hchanged (by rw [heq])) hlength
  split at hscan
  · rename_i error hcase
    exact ⟨error, hcase, hscan⟩
  · obtain ⟨last, hrecords, hlast, -⟩ := hscan
    have hoffset : last.offset = 15 := by
      have hget := congrArg (fun records => records.getLast?.map LogRecord.offset) hrecords
      simpa [recordsFrom, Frame.length, Frame.headerLength, Frame.checksumLength] using hget.symm
    have := (hlast 13 hchanged).1
    omega

end Replica
