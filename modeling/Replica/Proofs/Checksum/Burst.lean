/-
What a checksum notices.

Up to four bytes act on the register as one number (`foldl_absorb_eq`), and
shifts lose nothing, so they can be told from any others by the register behind
them. With that the register tells two byte strings that differ within four bytes
in a row (`eq_of_foldl_eq`). Bytes and their checksum together always leave the
same register (`foldl_append_eq_residue_iff`): a burst is noticed wherever it
stands, in the bytes, in the checksum or across the two.
-/
import Replica.Proofs.Bytes
import Replica.Proofs.Checksum

namespace Replica
namespace Checksum

/-! ## Numbers in the register -/

theorem getLsbD_ofNat {n : Nat} (h : n < UInt32.size) (i : Nat) :
    (UInt32.ofNat n).toBitVec.getLsbD i = n.testBit i := by
  show (BitVec.ofNat 32 n).getLsbD i = n.testBit i
  rw [BitVec.getLsbD_ofNat]
  by_cases hi : i < 32
  · simp [hi]
  · have hlt : n < 2 ^ i := Nat.lt_of_lt_of_le h (Nat.pow_le_pow_right Nat.two_pos (Nat.not_lt.1 hi))
    simp [Nat.testBit_lt_two_pow hlt]

theorem shifts_add (m n : Nat) (r : UInt32) : shifts (m + n) r = shifts m (shifts n r) := by
  induction n generalizing r with
  | zero => rfl
  | succ n ih => exact ih (shift r)

/-- Eight shifts move a number of three bytes down that stands above a byte that is clear. -/
theorem shifts_eight_mul {n : Nat} (h : n < capacity 3) :
    shifts 8 (UInt32.ofNat (256 * n)) = UInt32.ofNat n := by
  simp only [capacity] at h
  have hbit (i : Nat) : (UInt32.ofNat (256 * n)).toBitVec.getLsbD i =
      (decide (8 ≤ i) && n.testBit (i - 8)) := by
    rw [getLsbD_ofNat (by simp only [UInt32.size]; omega), show 256 * n = 2 ^ 8 * n from rfl,
      Nat.testBit_two_pow_mul]
  have hclear (i : Nat) (hi : i < 8) : (UInt32.ofNat (256 * n)).toBitVec.getLsbD i = false := by
    rw [hbit, decide_eq_false (by omega), Bool.false_and]
  apply UInt32.toBitVec_inj.1
  apply BitVec.eq_of_getLsbD_eq
  intro i _
  rw [getLsbD_shifts_of_clear 8 hclear, hbit, getLsbD_ofNat (by simp only [UInt32.size]; omega),
    decide_eq_true (Nat.le_add_right 8 i), Bool.true_and, Nat.add_sub_cancel_left]

theorem ofNat_cons (b : UInt8) {n : Nat} (h : n < capacity 3) :
    UInt32.ofNat (b.toNat + 256 * n) = b.toUInt32 ^^^ UInt32.ofNat (256 * n) := by
  simp only [capacity] at h
  have hb : b.toNat < 2 ^ 8 := b.toNat_lt
  have hcast : b.toUInt32 = UInt32.ofNat b.toNat := by simp
  rw [hcast]
  apply UInt32.toBitVec_inj.1
  apply BitVec.eq_of_getLsbD_eq
  intro i _
  rw [UInt32.toBitVec_xor, BitVec.getLsbD_xor, getLsbD_ofNat (by simp only [UInt32.size]; omega),
    getLsbD_ofNat (by simp only [UInt32.size]; omega),
    getLsbD_ofNat (by simp only [UInt32.size]; omega), Nat.add_comm,
    show 256 * n = 2 ^ 8 * n from rfl, Nat.testBit_two_pow_mul_add _ hb, Nat.testBit_two_pow_mul]
  by_cases hi : i < 8
  · simp [hi, Nat.not_le.2 hi]
  · have hhigh : b.toNat.testBit i = false :=
      Nat.testBit_lt_two_pow
        (Nat.lt_of_lt_of_le hb (Nat.pow_le_pow_right Nat.two_pos (Nat.not_lt.1 hi)))
    simp [hi, Nat.not_lt.1 hi, hhigh]

/-! ## Up to four bytes -/

/-- **Up to four bytes are taken in as one number.** -/
theorem foldl_absorb_eq {bs : Bytes} (h : bs.length ≤ 4) (r : UInt32) :
    bs.foldl absorb r = shifts (8 * bs.length) (r ^^^ UInt32.ofNat (fromLittleEndian bs)) := by
  induction bs generalizing r with
  | nil => simp [shifts, fromLittleEndian]
  | cons b bs ih =>
    rw [List.length_cons] at h
    have hrest : fromLittleEndian bs < capacity 3 :=
      Nat.lt_of_lt_of_le (fromLittleEndian_lt bs) (capacity_le_capacity (Nat.le_of_succ_le_succ h))
    rw [List.foldl_cons, ih (by omega), fromLittleEndian, ofNat_cons b hrest, List.length_cons,
      Nat.mul_succ, shifts_add, ← UInt32.xor_assoc, shifts_xor 8, shifts_eight_mul hrest]
    rfl

theorem foldl_absorbTable_bytes_injective {as bs : Bytes} (hlen : as.length = bs.length)
    (hshort : as.length ≤ 4) {r : UInt32} (h : as.foldl absorbTable r = bs.foldl absorbTable r) :
    as = bs := by
  have hsize (cs : Bytes) (hcs : cs.length ≤ 4) : fromLittleEndian cs < UInt32.size :=
    Nat.lt_of_lt_of_le (fromLittleEndian_lt cs) (capacity_le_capacity hcs)
  rw [absorbTable_eq_absorb, foldl_absorb_eq hshort, foldl_absorb_eq (hlen ▸ hshort), hlen] at h
  have hword := UInt32.xor_right_inj r |>.1 (shifts_injective _ h)
  have hnat := congrArg UInt32.toNat hword
  rw [UInt32.toNat_ofNat_of_lt' (hsize as hshort),
    UInt32.toNat_ofNat_of_lt' (hsize bs (hlen ▸ hshort))] at hnat
  exact fromLittleEndian_injective hlen hnat

/-! ## Bursts -/

/-- **The register tells a burst**: strings that agree outside four bytes in a row leave the same
register only if they agree there too. -/
theorem eq_of_foldl_eq {start : Nat} {as bs : Bytes} (h : AgreeOutside start as bs) {r : UInt32}
    (hfold : as.foldl absorbTable r = bs.foldl absorbTable r) : as = bs := by
  have hparts (cs : Bytes) :
      cs = cs.take start ++ ((cs.drop start).take 4 ++ cs.drop (start + 4)) := by
    rw [← List.drop_drop, List.take_append_drop, List.take_append_drop]
  have hlen : ((as.drop start).take 4).length = ((bs.drop start).take 4).length := by
    simp [h.length_eq]
  rw [hparts as, hparts bs, h.take_eq, h.drop_eq] at hfold ⊢
  simp only [List.foldl_append] at hfold
  -- The bytes behind the burst keep registers apart, so it left the same one in both.
  have hburst := foldl_absorbTable_bytes_injective hlen (List.length_take_le 4 _)
    (foldl_absorbTable_injective _ hfold)
  rw [hburst]

/-! ## A checksum behind its bytes -/

/-- The register behind any bytes and their checksum. -/
def residue : UInt32 := shifts 32 start

theorem xor_eq_start_iff (r s : UInt32) : r ^^^ s = start ↔ s = ~~~ r := by
  have hcancel : start = r ^^^ ~~~ r := by
    rw [← UInt32.xor_neg_one, ← UInt32.xor_assoc, UInt32.xor_self, UInt32.zero_xor]
    rfl
  rw [hcancel, UInt32.xor_right_inj]

/-- **What a checksum is**: the four bytes that, behind the bytes it covers, leave the residue. -/
theorem foldl_append_eq_residue_iff (covered : Bytes) {stored : Bytes} (h : stored.length = 4) :
    (covered ++ stored).foldl absorbTable start = residue ↔
      UInt32.ofNat (fromLittleEndian stored) = checksum covered := by
  rw [checksum, List.foldl_append]
  generalize covered.foldl absorbTable start = r
  rw [absorbTable_eq_absorb, foldl_absorb_eq (Nat.le_of_eq h), h, residue, ← xor_eq_start_iff]
  exact ⟨shifts_injective _, congrArg _⟩

end Checksum
end Replica
