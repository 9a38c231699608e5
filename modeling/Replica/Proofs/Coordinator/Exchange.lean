/-
Moves that can change places.

A move of another call touches one thing: a dequeue the queue, an offer the
trigger, a note the lifecycle state. `Task.rank` is the rank of the point at which
a handler touches the same. At any other point the two moves can change places
(`Task.exchange_step`), and two moves of other calls with different ranks always
can (`Task.exchange_move`).
-/
import Replica.Proofs.Coordinator.Exclusion

namespace Replica

/-! ## Past a move of a handler -/

namespace Coordinator

variable {σ π : Type} (c : Coordinator σ π)

theorem noteFatal_eq :
    c.noteFatal = { c with
      state := if c.state = .starting ∨ c.state = .running then .fatalShutdown else c.state } := by
  unfold noteFatal
  split <;> rfl

end Coordinator

namespace Handler

variable {σ π : Type} [MessageStores σ] [Policy π] (call : Call) {point : Point}
  (c : Coordinator σ π)

theorem step_offer (error : CoordinatorError) (hne : point.rank ≠ 2) :
    step call point (c.offer error).2 =
        ((step call point c).1, ((step call point c).2.offer error).2) ∧
      ((step call point c).2.offer error).1 = (c.offer error).1 := by
  cases point with
  | check => rw [step_check, step_check]; exact ⟨rfl, rfl⟩
  | consult => rw [step_consult, step_consult]; exact ⟨rfl, rfl⟩
  | escalate => exact absurd rfl hne
  | note =>
    simp only [step, Coordinator.noteFatal_eq]
    exact ⟨rfl, rfl⟩
  | fold => simp only [step_fold]; exact ⟨rfl, rfl⟩
  | enqueue => simp only [step_enqueue]; exact ⟨rfl, rfl⟩
  | push => simp only [step_push]; exact ⟨rfl, rfl⟩
  | process => exact ⟨rfl, rfl⟩
  | finished => exact ⟨rfl, rfl⟩

theorem step_noteFatal (hne : point.rank ≠ 8) :
    step call point c.noteFatal = ((step call point c).1, (step call point c).2.noteFatal) := by
  cases point with
  | check => exact absurd rfl hne
  | consult => simp only [step_consult, Coordinator.noteFatal_eq]
  | escalate => simp only [step, Coordinator.noteFatal_eq]; rfl
  | note => rfl
  | fold => simp only [step_fold, Coordinator.noteFatal_eq]
  | enqueue => simp only [step_enqueue, Coordinator.noteFatal_eq]
  | push => simp only [step_push, Coordinator.noteFatal_eq]
  | process => simp only [step, Coordinator.noteFatal_eq]
  | finished => rfl

theorem step_dequeue {L : MessageStores.Separation σ}
    (hready : point.isActive = true → L.Ready c.stores) (hne : point.rank ≠ 4) :
    step call point c.dequeue.2 =
        ((step call point c).1, (step call point c).2.dequeue.2) ∧
      (step call point c).2.dequeue.1 = c.dequeue.1 := by
  simp only [Coordinator.dequeue_eq]
  cases point with
  | check => rw [step_check, step_check]; exact ⟨rfl, rfl⟩
  | consult =>
    rw [step_consult, step_consult]
    simp only [L.reader_dequeue (hready rfl), and_self]
  | escalate => exact ⟨rfl, rfl⟩
  | note =>
    simp only [step, Coordinator.noteFatal_eq, and_self]
  | fold =>
    have hapart := L.fold_dequeue (hready rfl) call.message
    simp only [step_fold, hapart.left, hapart.right, hapart.state, and_self]
  | enqueue => exact absurd rfl hne
  | push =>
    have hapart := L.push_dequeue (hready rfl) call.message
    simp only [step_push, hapart.left, hapart.right, hapart.state, and_self]
  | process => exact ⟨rfl, rfl⟩
  | finished => exact ⟨rfl, rfl⟩

end Handler

/-! ## Moves of other calls -/

namespace Task

/-- The rank of the point at which a handler touches what the next move of the call touches; zero if
there is no next move. -/
def rank : Task → Nat
  | dequeue none => 4
  | shutdown _ .fire => 2
  | shutdown _ .note => 8
  | _ => 0

variable {σ π : Type} [MessageStores σ] {task task' other other' : Task} {c c' d : Coordinator σ π}

theorem rank_of_move (h : task.move c = some (task', c')) : 2 ≤ task.rank := by
  cases moves_of_move h with
  | dequeue | fire | note => simp [rank]

theorem exists_move (c : Coordinator σ π) (h : 0 < task.rank) :
    ∃ task' c', task.move c = some (task', c') := by
  unfold rank at h
  split at h
  · exact ⟨_, _, rfl⟩
  · exact ⟨_, _, rfl⟩
  · exact ⟨_, _, rfl⟩
  · cases h

theorem rank_move (h : task.move c = some (task', c')) : task'.rank = 0 ∨ task.rank < task'.rank := by
  cases moves_of_move h with
  | dequeue | note => exact .inl rfl
  | fire error => by_cases haccepted : (c.offer error).1 = true <;> simp [haccepted, rank]

/-- **Two moves of other calls** that touch different things can change places. -/
theorem exchange_move (h : task.move c = some (task', c')) (hother : other.move c = some (other', d))
    (hne : task.rank ≠ other.rank) :
    ∃ e, other.move c' = some (other', e) ∧ task.move d = some (task', e) := by
  cases moves_of_move h with
  | dequeue =>
    cases moves_of_move hother with
    | dequeue => exact absurd rfl hne
    | fire error => simp only [move, Coordinator.dequeue_eq]; exact ⟨_, rfl, rfl⟩
    | note error =>
      simp only [move, Coordinator.dequeue_eq, Coordinator.noteFatal_eq]
      exact ⟨_, rfl, rfl⟩
  | fire error =>
    cases moves_of_move hother with
    | dequeue => simp only [move, Coordinator.dequeue_eq]; exact ⟨_, rfl, rfl⟩
    | fire => exact absurd rfl hne
    | note => simp only [move, Coordinator.noteFatal_eq]; exact ⟨_, rfl, rfl⟩
  | note error =>
    cases moves_of_move hother with
    | dequeue =>
      simp only [move, Coordinator.dequeue_eq, Coordinator.noteFatal_eq]
      exact ⟨_, rfl, rfl⟩
    | fire => simp only [move, Coordinator.noteFatal_eq]; exact ⟨_, rfl, rfl⟩
    | note => exact absurd rfl hne

variable [Policy π]

/-- **A move of another call and a move of a handler** can change places, unless the handler is where
it touches the same. -/
theorem exchange_step {L : MessageStores.Separation σ} {call : Handler.Call} {point : Handler.Point}
    (h : task.move c = some (task', c')) (hne : point.rank ≠ task.rank)
    (hready : point.isActive = true → L.Ready c.stores) :
    (Handler.step call point c').1 = (Handler.step call point c).1 ∧
      task.move (Handler.step call point c).2 = some (task', (Handler.step call point c').2) := by
  cases moves_of_move h with
  | dequeue =>
    obtain ⟨hstep, hanswer⟩ := Handler.step_dequeue call c hready hne
    rw [hstep]
    exact ⟨rfl, by rw [move, hanswer]⟩
  | fire error =>
    obtain ⟨hstep, haccepted⟩ := Handler.step_offer call c error hne
    rw [hstep]
    exact ⟨rfl, by rw [move, haccepted]⟩
  | note error =>
    rw [Handler.step_noteFatal call c hne]
    exact ⟨rfl, rfl⟩

end Task

/-! ## In a system whose lock a handler holds -/

namespace System

variable {σ π : Type} [MessageStores σ] {s s' t : System σ π} {index : Nat}

/-- The rank of the next move somebody makes. Those of a stop that has given the lock back come last
of all, as no handler is past its check then. -/
def rankOf (s : System σ π) : Who → Nat
  | .task index => (s.tasks[index]?).elim 0 Task.rank
  | .stop => 1

/-- **The moves that need no lock**: those of calls that are no handlers, and those of a stop that
are not about the lock. -/
inductive OtherStep (s : System σ π) : Who → System σ π → Prop
  | task {index : Nat} {task task' : Task} {c : Coordinator σ π}
      (htask : s.tasks[index]? = some task) (hmove : task.move s.coordinator = some (task', c)) :
      OtherStep s (.task index) (s.put index task' c)
  | stop {move : StopMove} {rest : List StopMove} (hstop : s.stop = move :: rest)
      (hacquire : move ≠ .acquire) (hunlock : move ≠ .unlock) :
      OtherStep s .stop { s with coordinator := move.run s.coordinator, stop := rest }

theorem OtherStep.ne_of_inside {who : Who} {call : Handler.Call} {point : Handler.Point}
    (h : OtherStep s who t) (hinside : s.tasks[index]? = some (.inside call point)) :
    who ≠ .task index := by
  rintro rfl
  cases h with
  | task htask hmove =>
    rw [hinside] at htask
    cases htask
    cases hmove

theorem OtherStep.rankOf_task {j : Nat} (h : OtherStep s (.task j) t) : 2 ≤ s.rankOf (.task j) := by
  cases h with
  | task htask hmove =>
    rw [rankOf, htask]
    exact Task.rank_of_move hmove

omit [MessageStores σ] in
theorem getElem?_put_ne {i j : Nat} (h : i ≠ j) (task : Task) (c : Coordinator σ π) :
    (s.put i task c).tasks[j]? = s.tasks[j]? :=
  List.getElem?_set_ne h

omit [MessageStores σ] in
theorem rankOf_put_ne {i j : Nat} (h : i ≠ j) (task : Task) (c : Coordinator σ π) :
    (s.put i task c).rankOf (.task j) = s.rankOf (.task j) := by
  rw [rankOf, rankOf, getElem?_put_ne h]

omit [MessageStores σ] in
theorem put_comm {i j : Nat} (h : i ≠ j) (a b : Task) (c d e : Coordinator σ π) :
    (s.put i a c).put j b d = (s.put j b e).put i a d := by
  simp only [put, List.set_comm a b h]

theorem OtherStep.exchange {i j : Nat} (hi : OtherStep s (.task i) t) (hj : OtherStep t (.task j) s')
    (hij : i ≠ j) (hne : s.rankOf (.task i) ≠ t.rankOf (.task j)) :
    ∃ u, OtherStep s (.task j) u ∧ OtherStep u (.task i) s' ∧
      s.rankOf (.task j) = t.rankOf (.task j) ∧ u.rankOf (.task i) = s.rankOf (.task i) := by
  cases hi with
  | @task _ first first' c hfirst hmove =>
    rw [rankOf_put_ne hij] at hne ⊢
    cases hj with
    | @task _ second second' d hsecond hmove' =>
      rw [getElem?_put_ne hij] at hsecond
      have hrank : s.rankOf (.task j) = second.rank := by rw [rankOf, hsecond]; rfl
      have hranks : first.rank ≠ second.rank := by
        rw [rankOf, hfirst, hrank] at hne
        exact hne
      have hpos : 0 < second.rank := Nat.lt_of_lt_of_le Nat.two_pos (Task.rank_of_move hmove')
      obtain ⟨second'', e, hearly⟩ := Task.exists_move s.coordinator hpos
      obtain ⟨f, hlate, hback⟩ := Task.exchange_move hmove hearly hranks
      change second.move c = _ at hmove'
      rw [hlate] at hmove'
      cases hmove'
      have hfirst' : (s.put j second' e).tasks[i]? = some first := by
        rw [getElem?_put_ne (Ne.symm hij), hfirst]
      refine ⟨s.put j second' e, .task hsecond hearly, ?_, rfl, rankOf_put_ne (Ne.symm hij) _ _⟩
      rw [put_comm hij first' second' c d e]
      exact .task hfirst' hback

variable [Policy π] {L : MessageStores.Separation σ} {call : Handler.Call} {point : Handler.Point}

/-- The system when the handler that is inside has gone on to its next point. -/
def goOn (s : System σ π) (index : Nat) (call : Handler.Call) (point : Handler.Point) : System σ π :=
  s.put index (.inside call (Handler.step call point s.coordinator).1)
    (Handler.step call point s.coordinator).2

theorem one_le_rank (h : point.result? = none) : 1 ≤ point.rank := by
  cases point with
  | finished => cases h
  | _ => simp [Handler.Point.rank]

/-- **A handler goes on** before or after a move of somebody else, as long as that touches something
the handler has behind it. -/
theorem OtherStep.goOn {who : Who} (h : OtherStep s who t)
    (hinside : s.tasks[index]? = some (.inside call point)) (hleft : point.result? = none)
    (hlate : point.rank < s.rankOf who)
    (hready : point.isActive = true → L.Ready s.coordinator.stores) :
    OtherStep (s.goOn index call point) who (t.goOn index call point) ∧
      (s.goOn index call point).rankOf who = s.rankOf who ∧
      (Handler.step call point t.coordinator).1 = (Handler.step call point s.coordinator).1 := by
  have hne := h.ne_of_inside hinside
  cases h with
  | @task j task task' c htask hmove =>
    have hij : index ≠ j := fun heq => hne (by rw [heq])
    have hrank : point.rank ≠ task.rank := by
      rw [rankOf, htask] at hlate
      exact Nat.ne_of_lt hlate
    obtain ⟨hpoint, hmove'⟩ := Task.exchange_step hmove hrank hready
    refine ⟨?_, rankOf_put_ne hij _ _, hpoint⟩
    have htask' : (s.goOn index call point).tasks[j]? = some task := by
      rw [System.goOn, getElem?_put_ne hij, htask]
    have hsame : (s.put j task' c).goOn index call point =
        (s.goOn index call point).put j task' (Handler.step call point c).2 := by
      simp only [System.goOn]
      rw [← put_comm (Ne.symm hij) task' _ c, ← hpoint]
      rfl
    rw [hsame]
    exact .task htask' hmove'
  | stop =>
    have hpos := one_le_rank hleft
    rw [rankOf] at hlate
    omega

end System

end Replica
