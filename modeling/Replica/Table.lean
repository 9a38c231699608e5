/-
Finite tables: an association list whose keys occur once, in the order they
were first put in.
-/
namespace Replica

/-- A finite map from keys to values. -/
structure Table (κ ν : Type) where
  rows : List (κ × ν) := []

namespace Table

variable {κ ν : Type} [DecidableEq κ]

/-- The table without rows. -/
def empty : Table κ ν := {}

instance : Inhabited (Table κ ν) := ⟨empty⟩

/-- The value under a key. -/
def get? (t : Table κ ν) (k : κ) : Option ν := (t.rows.find? (·.1 = k)).map (·.2)

/-- Puts a value under a key, in place of the one it had. -/
def insert (t : Table κ ν) (k : κ) (v : ν) : Table κ ν :=
  if t.rows.any (·.1 = k) then ⟨t.rows.map fun row => if row.1 = k then (k, v) else row⟩
  else ⟨t.rows ++ [(k, v)]⟩

/-- Takes a key out. -/
def erase (t : Table κ ν) (k : κ) : Table κ ν := ⟨t.rows.filter (·.1 ≠ k)⟩

/-- Changes the value under a key, if there is one. -/
def modify (t : Table κ ν) (k : κ) (f : ν → ν) : Table κ ν :=
  ⟨t.rows.map fun row => if row.1 = k then (row.1, f row.2) else row⟩

@[simp] theorem get?_empty (k : κ) : (empty : Table κ ν).get? k = none := rfl

private theorem findRow_map_self {rows : List (κ × ν)} {k : κ} (v : ν)
    (h : rows.any (·.1 = k) = true) :
    (rows.map fun row => if row.1 = k then (k, v) else row).find? (·.1 = k) = some (k, v) := by
  induction rows with
  | nil => simp at h
  | cons row rows ih =>
    rw [List.map_cons, List.find?_cons]
    by_cases hk : row.1 = k
    · simp [hk]
    · have h' : rows.any (·.1 = k) = true := by simpa [hk] using h
      simp only [hk, if_false, decide_false]
      exact ih h'

private theorem findRow_map_other {rows : List (κ × ν)} {k k' : κ} (v : ν) (hne : k' ≠ k) :
    (rows.map fun row => if row.1 = k then (k, v) else row).find? (·.1 = k') =
      rows.find? (·.1 = k') := by
  induction rows with
  | nil => rfl
  | cons row rows ih =>
    rw [List.map_cons, List.find?_cons, List.find?_cons]
    by_cases hk : row.1 = k
    · have hk' : row.1 ≠ k' := fun h => hne (h ▸ hk)
      have hkk : k ≠ k' := fun h => hne h.symm
      simp only [hk, if_true, hkk, decide_false]
      exact ih
    · simp only [hk, if_false]
      split <;> simp_all

@[simp] theorem get?_insert_self (t : Table κ ν) (k : κ) (v : ν) :
    (t.insert k v).get? k = some v := by
  unfold insert get?
  split
  · rename_i h; rw [findRow_map_self v h]; rfl
  · rename_i h
    have hn : t.rows.find? (·.1 = k) = none := by
      rw [List.find?_eq_none]
      intro row hrow hk
      exact h (List.any_eq_true.2 ⟨row, hrow, hk⟩)
    simp [List.find?_append, hn]

theorem get?_insert_of_ne (t : Table κ ν) {k k' : κ} (v : ν) (hne : k' ≠ k) :
    (t.insert k v).get? k' = t.get? k' := by
  unfold insert get?
  split
  · rw [findRow_map_other v hne]
  · simp only [List.find?_append]
    cases t.rows.find? (·.1 = k') with
    | some row => rfl
    | none =>
      have : k ≠ k' := fun h => hne h.symm
      simp [this]

theorem get?_insert (t : Table κ ν) (k k' : κ) (v : ν) :
    (t.insert k v).get? k' = if k' = k then some v else t.get? k' := by
  split
  · rename_i h; subst h; exact get?_insert_self t k' v
  · rename_i h; exact get?_insert_of_ne t v h

theorem get?_erase (t : Table κ ν) (k k' : κ) :
    (t.erase k).get? k' = if k' = k then none else t.get? k' := by
  unfold erase get?
  rw [List.find?_filter]
  split
  · rename_i h; subst h
    simp
  · rename_i h
    congr 2
    funext row
    by_cases hk : row.1 = k' <;> simp [hk, h]

theorem get?_modify (t : Table κ ν) (k k' : κ) (f : ν → ν) :
    (t.modify k f).get? k' = if k' = k then (t.get? k').map f else t.get? k' := by
  obtain ⟨rows⟩ := t
  unfold modify get?
  induction rows with
  | nil => simp
  | cons row rows ih =>
    simp only [List.map_cons, List.find?_cons] at ih ⊢
    by_cases hk : row.1 = k <;> by_cases hk' : row.1 = k'
    · simp [hk, hk' ▸ hk]
    · have hkk : k ≠ k' := fun h => hk' (h ▸ hk)
      simpa [hk, hkk, hk'] using ih
    · have hkk : k' ≠ k := fun h => hk (h ▸ hk')
      simp [hk', hkk]
    · simpa [hk, hk'] using ih

end Table

end Replica
