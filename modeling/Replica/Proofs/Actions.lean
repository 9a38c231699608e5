/-
What looking at a state and changing it come to, and taking a run apart.
-/
import Replica.Focus

namespace Replica

variable {ε S : Type}

theorem get_apply (s : S) : (get : EStateM ε S S) s = .ok s s := rfl

theorem set_apply (s s' : S) : (set s' : EStateM ε S PUnit) s = .ok ⟨⟩ s' := rfl

theorem modify_apply (f : S → S) (s : S) : (modify f : EStateM ε S PUnit) s = .ok ⟨⟩ (f s) := rfl

theorem exists_ok_of_isOk {α : Type} {act : EStateM ε S α} {s : S}
    (h : (outcome act s).1.isOk = true) : ∃ a s', act s = .ok a s' := by
  unfold outcome at h
  split at h
  · rename_i a s' hrun
    exact ⟨a, s', hrun⟩
  · cases h

theorem exists_error_of_outcome {α : Type} {act : EStateM ε S α} {s : S} {e : ε}
    (h : (match (outcome act s).1 with | .error e => some e | .ok _ => none) = some e) :
    ∃ s', act s = .error e s' := by
  unfold outcome at h
  cases hrun : act s with
  | ok a s' =>
    rw [hrun] at h
    cases h
  | error e' s' =>
    rw [hrun] at h
    cases h
    exact ⟨s', rfl⟩

theorem bind_ok {α β : Type} {x : EStateM ε S α} {f : α → EStateM ε S β} {s s'' : S} {b : β}
    (h : (x >>= f) s = .ok b s'') : ∃ a s', x s = .ok a s' ∧ f a s' = .ok b s'' := by
  simp only [bind, EStateM.bind] at h
  cases hx : x s with
  | error e s' =>
    rw [hx] at h
    cases h
  | ok a s' =>
    rw [hx] at h
    exact ⟨a, s', rfl, h⟩

end Replica
