/-
The checksum register, bit by bit.

A shift is linear in exclusive or and loses nothing (`shift_xor`,
`shifts_injective`), so a register can be told from any other by the register
behind the same bytes (`foldl_absorbTable_injective`). Taking a byte in through
the table is the same as taking it in bit by bit, whatever byte and register
(`absorbTable_eq`), and so it is for any bytes (`checksum_eq_bitwise`).
-/
import Replica.Checksum

namespace Replica

namespace Checksum

/-! ## One shift -/

theorem and_one_eq_one_iff (r : UInt32) : r &&& 1 = 1 ↔ r.toBitVec[0] = true := by
  rw [← UInt32.toBitVec_inj, UInt32.toBitVec_and]
  show r.toBitVec &&& 1#32 = 1#32 ↔ _
  rw [BitVec.and_one_eq_setWidth_ofBool_getLsbD]
  cases h : r.toBitVec.getLsbD 0 <;> simp at h <;> simp [h]

/-- A shift drops the lowest bit and, if it was set, flips the bits of the polynomial. -/
theorem getLsbD_shift (r : UInt32) (i : Nat) :
    (shift r).toBitVec.getLsbD i =
      (r.toBitVec.getLsbD (i + 1) ^^ (r.toBitVec[0] && polynomial.toBitVec.getLsbD i)) := by
  unfold shift
  split
  · rename_i h
    rw [and_one_eq_one_iff] at h
    simp [h, Nat.add_comm]
  · rename_i h
    rw [and_one_eq_one_iff, Bool.not_eq_true] at h
    simp [h, Nat.add_comm]

theorem shift_xor (a b : UInt32) : shift (a ^^^ b) = shift a ^^^ shift b := by
  apply UInt32.toBitVec_inj.1
  apply BitVec.eq_of_getLsbD_eq
  intro i _
  simp only [getLsbD_shift, UInt32.toBitVec_xor, BitVec.getLsbD_xor, BitVec.getElem_xor]
  generalize a.toBitVec.getLsbD (i + 1) = x, b.toBitVec.getLsbD (i + 1) = y
  generalize a.toBitVec[0] = p, b.toBitVec[0] = q, polynomial.toBitVec.getLsbD i = c
  revert x y p q c
  decide

/-- The polynomial's highest bit is set, so the highest bit after a shift is the lowest before it. -/
theorem shift_eq_zero {r : UInt32} (h : shift r = 0) : r = 0 := by
  have bit (i : Nat) : (r.toBitVec.getLsbD (i + 1) ^^
      (r.toBitVec[0] && polynomial.toBitVec.getLsbD i)) = false := by
    rw [← getLsbD_shift, h]
    simp
  have low : r.toBitVec[0] = false := by
    have top := bit 31
    rw [BitVec.getLsbD_of_ge _ _ (by decide)] at top
    simpa [polynomial] using top
  apply UInt32.toBitVec_inj.1
  apply BitVec.eq_of_getLsbD_eq
  intro i _
  cases i with
  | zero => simpa using low
  | succ i => simpa [low] using bit i

/-! ## Many shifts -/

theorem shifts_xor (n : Nat) (a b : UInt32) : shifts n (a ^^^ b) = shifts n a ^^^ shifts n b := by
  induction n generalizing a b with
  | zero => rfl
  | succ n ih => simp only [shifts, shift_xor, ih]

theorem shifts_eq_zero {n : Nat} {r : UInt32} (h : shifts n r = 0) : r = 0 := by
  induction n generalizing r with
  | zero => exact h
  | succ n ih => exact shift_eq_zero (ih h)

theorem shifts_injective (n : Nat) {a b : UInt32} (h : shifts n a = shifts n b) : a = b := by
  have zero : shifts n (a ^^^ b) = 0 := by rw [shifts_xor, h, UInt32.xor_self]
  exact UInt32.xor_eq_zero_iff.1 (shifts_eq_zero zero)

/-- Shifts that only meet bits that are clear move the register down. -/
theorem getLsbD_shifts_of_clear (n : Nat) {r : UInt32}
    (h : ∀ i < n, r.toBitVec.getLsbD i = false) (i : Nat) :
    (shifts n r).toBitVec.getLsbD i = r.toBitVec.getLsbD (n + i) := by
  induction n generalizing r i with
  | zero => simp [shifts]
  | succ n ih =>
    have low : r.toBitVec[0] = false := by simpa using h 0 (by omega)
    have next (j : Nat) : (shift r).toBitVec.getLsbD j = r.toBitVec.getLsbD (j + 1) := by
      rw [getLsbD_shift, low]
      simp
    rw [shifts, ih (fun j hj => by rw [next]; exact h (j + 1) (by omega)), next]
    congr 1
    omega

/-! ## The table -/

/-- The bits of a register that a byte reaches. -/
def lowByte (r : UInt32) : UInt32 := r.toUInt8.toUInt32

theorem getLsbD_lowByte (r : UInt32) (i : Nat) :
    (lowByte r).toBitVec.getLsbD i = (decide (i < 8) && r.toBitVec.getLsbD i) := by
  simp only [lowByte, UInt8.toBitVec_toUInt32, UInt32.toBitVec_toUInt8, BitVec.getLsbD_setWidth]
  by_cases h : i < 8
  · have h32 : i < 32 := by omega
    simp [h, h32]
  · simp [h]

theorem byte_shiftRight (b : UInt8) : b.toUInt32 >>> 8 = 0 := by
  apply UInt32.toBitVec_inj.1
  apply BitVec.eq_of_getLsbD_eq
  intro i _
  simp [BitVec.getLsbD_setWidth]

theorem getElem_table (low : UInt8) (h : low.toNat < table.size) :
    table[low.toNat] = shifts 8 low.toUInt32 := by
  simp [table]

/-- Eight shifts send the low byte through the table and move the rest down. -/
theorem shifts_eight_eq (r : UInt32) : shifts 8 r = (r >>> 8) ^^^ shifts 8 (lowByte r) := by
  have parts : r = (r ^^^ lowByte r) ^^^ lowByte r := by
    rw [UInt32.xor_assoc, UInt32.xor_self, UInt32.xor_zero]
  have high : shifts 8 (r ^^^ lowByte r) = r >>> 8 := by
    apply UInt32.toBitVec_inj.1
    apply BitVec.eq_of_getLsbD_eq
    intro i _
    rw [getLsbD_shifts_of_clear]
    · have : ¬ 8 + i < 8 := by omega
      simp [getLsbD_lowByte, this]
    · intro j hj
      simp [getLsbD_lowByte, hj]
  conv => lhs; rw [parts, shifts_xor, high]

theorem absorbTable_eq (r : UInt32) (b : UInt8) : absorbTable r b = absorb r b := by
  unfold absorbTable absorb
  rw [shifts_eight_eq]
  simp only [getElem_table, lowByte]
  congr 1
  rw [UInt32.shiftRight_xor, byte_shiftRight, UInt32.xor_zero]

theorem absorbTable_eq_absorb : absorbTable = absorb :=
  funext fun r => funext fun b => absorbTable_eq r b

/-! ## What bytes do to the register -/

theorem absorbTable_register_injective {r s : UInt32} (b : UInt8)
    (h : absorbTable r b = absorbTable s b) : r = s := by
  rw [absorbTable_eq, absorbTable_eq] at h
  exact UInt32.xor_left_inj b.toUInt32 |>.1 (shifts_injective 8 h)

theorem foldl_absorbTable_injective (bs : Bytes) {r s : UInt32}
    (h : bs.foldl absorbTable r = bs.foldl absorbTable s) : r = s := by
  induction bs generalizing r s with
  | nil => exact h
  | cons b bs ih => exact absorbTable_register_injective b (ih h)

/-- **The checksum is CRC-32**: looking up the eight shifts of every byte in the table gives what
shifting bit by bit gives, for any bytes. -/
theorem checksum_eq_bitwise (bs : Bytes) : checksum bs = bitwise bs :=
  calc checksum bs
    _ = ~~~ bs.foldl absorbTable start := rfl
    _ = ~~~ bs.foldl absorb start := by rw [absorbTable_eq_absorb]
    _ = bitwise bs := rfl

/-- The check value of CRC-32, which is that of the digits from one to nine. -/
example : bitwise [0x31, 0x32, 0x33, 0x34, 0x35, 0x36, 0x37, 0x38, 0x39] = 0xCBF43926 := by
  decide +kernel

end Checksum

end Replica
