/-
Putting values into tables twice, and in another order.
-/
import Replica.Table

namespace Replica.Table

variable {κ ν : Type} [DecidableEq κ] {t : Table κ ν} {k k' : κ}

theorem map_of_not_any {rows : List (κ × ν)} (v : ν) (h : ¬ rows.any (·.1 = k) = true) :
    (rows.map fun row => if row.1 = k then (k, v) else row) = rows := by
  induction rows with
  | nil => rfl
  | cons row rows ih =>
    simp only [List.any_cons, Bool.or_eq_true, not_or] at h
    have hrow : ¬ row.1 = k := by simpa using h.1
    rw [List.map_cons, if_neg hrow, ih h.2]

theorem insert_insert_self (t : Table κ ν) (k : κ) (v w : ν) :
    (t.insert k v).insert k w = t.insert k w := by
  by_cases h : t.rows.any (·.1 = k) = true
  · have hinner : (t.rows.map fun row => if row.1 = k then (k, v) else row).any (·.1 = k) = true := by
      obtain ⟨row, hrow, hk⟩ := List.any_eq_true.1 h
      exact List.any_eq_true.2 ⟨_, List.mem_map_of_mem hrow, by simp [of_decide_eq_true hk]⟩
    have hinsert (x : ν) : t.insert k x = ⟨t.rows.map fun row => if row.1 = k then (k, x) else row⟩ :=
      if_pos h
    rw [hinsert v, hinsert w, insert, if_pos hinner, Table.mk.injEq, List.map_map]
    refine List.map_congr_left fun row _ => ?_
    by_cases hk : row.1 = k <;> simp [hk]
  · have hinsert (x : ν) : t.insert k x = ⟨t.rows ++ [(k, x)]⟩ := if_neg h
    rw [hinsert v, hinsert w, insert, if_pos (by simp), Table.mk.injEq, List.map_append,
      map_of_not_any w h]
    simp

theorem modify_insert_self (t : Table κ ν) (k : κ) (v : ν) (f : ν → ν) :
    (t.insert k v).modify k f = t.insert k (f v) := by
  by_cases h : t.rows.any (·.1 = k) = true
  · rw [insert, insert, if_pos h, if_pos h, modify, Table.mk.injEq, List.map_map]
    refine List.map_congr_left fun row _ => ?_
    by_cases hk : row.1 = k <;> simp [hk]
  · have hkept : t.rows.map (fun row => if row.1 = k then (row.1, f row.2) else row) = t.rows := by
      refine (List.map_congr_left fun row hrow => if_neg fun hk => h ?_).trans (List.map_id' _)
      exact List.any_eq_true.2 ⟨row, hrow, decide_eq_true hk⟩
    rw [insert, insert, if_neg h, if_neg h, modify, Table.mk.injEq, List.map_append, hkept]
    simp

theorem mem_of_get? {v : ν} (h : t.get? k = some v) : (k, v) ∈ t.rows := by
  obtain ⟨row, hrow, rfl⟩ := Option.map_eq_some_iff.1 h
  have hk : row.1 = k := by simpa using List.find?_some hrow
  rw [← hk]
  exact List.mem_of_find?_eq_some hrow

theorem insert_comm (t : Table κ ν) (v w : ν) (h : t.get? k ≠ none) (hne : k ≠ k') :
    (t.insert k v).insert k' w = (t.insert k' w).insert k v := by
  have hany : t.rows.any (·.1 = k) = true := by
    rw [get?, ne_eq, Option.map_eq_none_iff, List.find?_eq_none] at h
    simpa using h
  have hinsert : t.insert k v = ⟨t.rows.map fun row => if row.1 = k then (k, v) else row⟩ :=
    if_pos hany
  have hkeys : (t.rows.map fun row => if row.1 = k then (k, v) else row).any (·.1 = k') =
      t.rows.any (·.1 = k') := by
    rw [List.any_map]
    congr 1
    funext row
    by_cases hk : row.1 = k
    · simp [hk]
    · simp [hk]
  rw [hinsert, insert, hkeys]
  by_cases h' : t.rows.any (·.1 = k') = true
  · have hinsert' : t.insert k' w = ⟨t.rows.map fun row => if row.1 = k' then (k', w) else row⟩ :=
      if_pos h'
    have hany' : (t.rows.map fun row => if row.1 = k' then (k', w) else row).any (·.1 = k) = true := by
      obtain ⟨row, hrow, hk⟩ := List.any_eq_true.1 hany
      refine List.any_eq_true.2 ⟨_, List.mem_map_of_mem hrow, ?_⟩
      have hk : row.1 = k := of_decide_eq_true hk
      simp [hk, hne]
    rw [hinsert', insert, if_pos h', if_pos hany', Table.mk.injEq, List.map_map, List.map_map]
    refine List.map_congr_left fun row _ => ?_
    by_cases hk : row.1 = k
    · simp [hk, hne]
    · by_cases hk' : row.1 = k'
      · simp [hk', Ne.symm hne]
      · simp [hk, hk']
  · have hinsert' : t.insert k' w = ⟨t.rows ++ [(k', w)]⟩ := if_neg h'
    rw [hinsert', insert, if_neg h', if_pos (by simp [hany]), Table.mk.injEq, List.map_append]
    simp [Ne.symm hne]

end Replica.Table
