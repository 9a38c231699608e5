/-
Acting on a part of a state.

Every action of the library is an `EStateM ε S α`: it reads and changes a state
and ends with a result or an error, the changes made before an error being
kept. `Part.run` lets an action on a part act on the whole, and `Part.lift`
does so with an error of another kind.
-/
namespace Replica

/-- A part `T` of a state `S`. -/
structure Part (S T : Type) where
  get : S → T
  put : T → S → S

namespace Part

variable {S T ε ε' α : Type}

/-- The right half of a pair. -/
def right : Part (S × T) T := ⟨Prod.snd, fun t p => (p.1, t)⟩

/-- Runs an action on the part. -/
def run (part : Part S T) (act : EStateM ε T α) : EStateM ε S α := fun s =>
  match act (part.get s) with
  | .ok a t => .ok a (part.put t s)
  | .error e t => .error e (part.put t s)

/-- Runs an action on the part and turns its error into one of the whole. -/
def lift (part : Part S T) (wrap : ε → ε') (act : EStateM ε T α) : EStateM ε' S α :=
  (part.run act).adaptExcept wrap

end Part

/-- An action that only looks at the state. -/
def observe {S ε α : Type} (look : S → Except ε α) : EStateM ε S α := fun s =>
  match look s with
  | .ok a => .ok a s
  | .error e => .error e s

/-- The result of an action as a value, and the state it left. -/
def outcome {S ε α : Type} (act : EStateM ε S α) (s : S) : Except ε α × S :=
  match act s with
  | .ok a s' => (.ok a, s')
  | .error e s' => (.error e, s')

end Replica
