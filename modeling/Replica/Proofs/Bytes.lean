/-
Numbers and fields of byte strings.

A number in bytes is told by them and they by it (`fromLittleEndian_injective`),
and a field is told by any part of the string it stands in. `AgreeOutside` are
two strings that differ only within four bytes in a row, which is what a burst of
damage makes of one.
-/
import Replica.Bytes

namespace Replica

/-! ## Numbers -/

theorem capacity_le_capacity {m n : Nat} (h : m ≤ n) : capacity m ≤ capacity n := by
  induction h with
  | refl => exact Nat.le_refl _
  | @step n _ ih =>
    show capacity m ≤ 256 * capacity n
    omega

theorem fromLittleEndian_take_lt (bs : Bytes) (n : Nat) :
    fromLittleEndian (bs.take n) < capacity n :=
  Nat.lt_of_lt_of_le (fromLittleEndian_lt _) (capacity_le_capacity (List.length_take_le n bs))

theorem fromLittleEndian_injective {as bs : Bytes} (hlen : as.length = bs.length)
    (h : fromLittleEndian as = fromLittleEndian bs) : as = bs := by
  rw [← littleEndian_fromLittleEndian as, ← littleEndian_fromLittleEndian bs, hlen, h]

theorem take_eq_littleEndian {bs : Bytes} {n : Nat} (h : n ≤ bs.length) :
    bs.take n = littleEndian n (fromLittleEndian (bs.take n)) := by
  have hlen : (bs.take n).length = n := List.length_take_of_le h
  conv => lhs; rw [← littleEndian_fromLittleEndian (bs.take n), hlen]

theorem fromLittleEndian_eq_zero {bs : Bytes} (h : ∀ b ∈ bs, b = 0) : fromLittleEndian bs = 0 := by
  induction bs with
  | nil => rfl
  | cons b bs ih =>
    rw [fromLittleEndian, h b (List.mem_cons_self ..), ih fun c hc => h c (List.mem_cons_of_mem _ hc)]
    rfl

/-! ## Fields -/

theorem take_drop_take (data : Bytes) {start size n : Nat} (h : start + size ≤ n) :
    ((data.take n).drop start).take size = (data.drop start).take size := by
  rw [List.drop_take, List.take_take, Nat.min_eq_left (by omega)]

theorem take_eq_take_of_le {as bs : Bytes} {m n : Nat} (h : as.take n = bs.take n) (hmn : m ≤ n) :
    as.take m = bs.take m := by
  have := congrArg (List.take m) h
  rwa [List.take_take, List.take_take, Nat.min_eq_left hmn] at this

theorem field_eq_of_take_eq {as bs : Bytes} {start size n : Nat} (h : as.take n = bs.take n)
    (hn : start + size ≤ n) : (as.drop start).take size = (bs.drop start).take size := by
  rw [← take_drop_take as hn, ← take_drop_take bs hn, h]

/-! ## Bursts -/

/-- Two byte strings of one length that agree outside the four bytes from `start` on. -/
structure AgreeOutside (start : Nat) (as bs : Bytes) : Prop where
  length_eq : as.length = bs.length
  outside {i : Nat} (h : i < start ∨ start + 4 ≤ i) : as[i]? = bs[i]?

namespace AgreeOutside

variable {start : Nat} {as bs : Bytes}

theorem refl (start : Nat) (bs : Bytes) : AgreeOutside start bs bs := ⟨rfl, fun _ => rfl⟩

theorem set (h : AgreeOutside start as bs) {i : Nat} (b : UInt8) (hle : start ≤ i)
    (hlt : i < start + 4) : AgreeOutside start as (bs.set i b) := by
  refine ⟨by rw [List.length_set, h.length_eq], fun {j} hj => ?_⟩
  rw [List.getElem?_set_ne (by omega), h.outside hj]

theorem take (h : AgreeOutside start as bs) (n : Nat) :
    AgreeOutside start (as.take n) (bs.take n) := by
  refine ⟨by rw [List.length_take, List.length_take, h.length_eq], fun hi => ?_⟩
  rw [List.getElem?_take, List.getElem?_take, h.outside hi]

theorem drop (h : AgreeOutside start as bs) (n : Nat) :
    AgreeOutside (start - n) (as.drop n) (bs.drop n) := by
  refine ⟨by rw [List.length_drop, List.length_drop, h.length_eq], fun hi => ?_⟩
  rw [List.getElem?_drop, List.getElem?_drop, h.outside (by omega)]

theorem take_eq (h : AgreeOutside start as bs) : as.take start = bs.take start := by
  refine List.ext_getElem? fun i => ?_
  rw [List.getElem?_take, List.getElem?_take]
  split
  · rename_i hi
    exact h.outside (.inl hi)
  · rfl

theorem drop_eq (h : AgreeOutside start as bs) : as.drop (start + 4) = bs.drop (start + 4) := by
  refine List.ext_getElem? fun i => ?_
  rw [List.getElem?_drop, List.getElem?_drop, h.outside (.inr (Nat.le_add_right ..))]

end AgreeOutside
end Replica
