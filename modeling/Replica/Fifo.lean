/-
First in, first out, with both ends at hand: what was put in last lies reversed
behind what leaves next. `toList` is the order in which the elements leave, and
the lemmas say what each operation does to it.
-/
namespace Replica

/-- Elements in the order they were put in. -/
structure Fifo (α : Type) where
  /-- What leaves first, in order. -/
  front : List α := []
  /-- What leaves after the front, the latest first. -/
  back : List α := []
  deriving Repr

namespace Fifo

variable {α : Type}

instance : Inhabited (Fifo α) := ⟨{}⟩

/-- The elements in the order they leave. -/
def toList (q : Fifo α) : List α := q.front ++ q.back.reverse

/-- Puts an element in. -/
def push (q : Fifo α) (a : α) : Fifo α := ⟨q.front, a :: q.back⟩

/-- The element that leaves next and what stays; none if there is none. -/
def pop? (q : Fifo α) : Option (α × Fifo α) :=
  match q.front with
  | a :: front => some (a, ⟨front, q.back⟩)
  | [] =>
    match q.back.reverse with
    | a :: front => some (a, ⟨front, []⟩)
    | [] => none

/-- The number of elements. -/
def length (q : Fifo α) : Nat := q.front.length + q.back.length

@[simp] theorem toList_empty : ({} : Fifo α).toList = [] := rfl

@[simp] theorem toList_push (q : Fifo α) (a : α) : (q.push a).toList = q.toList ++ [a] := by
  simp [push, toList]

@[simp] theorem length_toList (q : Fifo α) : q.toList.length = q.length := by
  simp [toList, length]

theorem toList_of_pop? {q q' : Fifo α} {a : α} (h : q.pop? = some (a, q')) :
    q.toList = a :: q'.toList := by
  obtain ⟨front, back⟩ := q
  cases front with
  | cons b front =>
    simp only [pop?, Option.some.injEq, Prod.mk.injEq] at h
    obtain ⟨rfl, rfl⟩ := h
    simp [toList]
  | nil =>
    simp only [pop?] at h
    split at h
    · rename_i hback
      simp only [Option.some.injEq, Prod.mk.injEq] at h
      obtain ⟨rfl, rfl⟩ := h
      simp [toList, hback]
    · simp at h

theorem pop?_eq_none_iff (q : Fifo α) : q.pop? = none ↔ q.toList = [] := by
  obtain ⟨front, back⟩ := q
  cases front with
  | cons b front => simp [pop?, toList]
  | nil =>
    simp only [pop?, toList, List.nil_append]
    split <;> rename_i hback <;> simp [hback]

end Fifo

end Replica
