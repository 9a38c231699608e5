/-
A handler inside, and the moves of the others meanwhile.

Some of them touch something the handler has not come to yet and can be moved in
front of it (`Handler.reaches_of_move`). The others touch something it has behind
it: `System.Others` collects these, the handler goes on before them as it goes on
after them (`Others.goOn`), and a move of the first kind gets past them
(`Others.early`).
-/
import Replica.Proofs.Coordinator.Exchange

namespace Replica

/-! ## A handler on its own -/

namespace Handler

variable {σ π : Type} [MessageStores σ] [Policy π] {call : Call} {point : Point}
  {start c : Coordinator σ π}

/-- The points a call comes to on its own, from its check on. -/
inductive Reaches (call : Call) (start : Coordinator σ π) : Point → Coordinator σ π → Prop
  | check : Reaches call start .check start
  | step {point : Point} {c : Coordinator σ π} (before : Reaches call start point c)
      (hleft : point.result? = none) :
      Reaches call start (Handler.step call point c).1 (Handler.step call point c).2

theorem run_of_left (call : Call) (c : Coordinator σ π) (hleft : point.result? = none) :
    run call point c = run call (Handler.step call point c).1 (Handler.step call point c).2 := by
  conv => lhs; unfold run
  split
  · rename_i result hresult
    rw [hleft] at hresult
    cases hresult
  · rfl

/-- From every point it comes to, a call ends as it ends from its check. -/
theorem run_of_reaches (h : Reaches call start point c) : run call point c = handle call start := by
  induction h with
  | check => rfl
  | @step point c _ hleft ih => rw [← ih, run_of_left call c hleft]

theorem handle_of_reaches_finished {result : Except CoordinatorError Outcome}
    (h : Reaches call start (.finished result) c) : handle call start = (result, c) := by
  rw [← run_of_reaches h]
  unfold run
  rfl

theorem rank_le_eight (point : Point) : point.rank ≤ 8 := by
  cases point <;> simp [Point.rank]

theorem step_ne_check (call : Call) (c : Coordinator σ π) (hleft : point.result? = none) :
    (Handler.step call point c).1 ≠ .check := by
  intro hcheck
  have hlt := rank_step_lt call point c hleft
  have hle := rank_le_eight point
  rw [hcheck, show Point.check.rank = 8 from rfl] at hlt
  omega

theorem eq_of_reaches_check (h : Reaches call start .check c) : c = start := by
  generalize hpoint : Point.check = point at h
  cases h with
  | check => rfl
  | step _ hleft => exact absurd hpoint.symm (step_ne_check call _ hleft)

theorem ready_of_reaches {L : MessageStores.Separation σ} (h : Reaches call start point c)
    (hready : L.Ready start.stores) : L.Ready c.stores := by
  induction h with
  | check => exact hready
  | step _ _ ih => exact ready_step _ ih

/-- **A move of another call in front of a handler**, if it touches something the handler has not
come to yet. -/
theorem reaches_of_move {L : MessageStores.Separation σ} {task task' : Task} {c' : Coordinator σ π}
    (h : Reaches call start point c) (hmove : task.move c = some (task', c'))
    (hearly : task.rank ≤ point.rank) (hready : point ≠ .check → L.Ready start.stores) :
    ∃ start', task.move start = some (task', start') ∧ Reaches call start' point c' := by
  have htwo := Task.rank_of_move hmove
  induction h generalizing c' task' with
  | check => exact ⟨c', hmove, .check⟩
  | @step point c before hleft ih =>
    have hlt := rank_step_lt call point c hleft
    have hstart : L.Ready start.stores := hready (step_ne_check call c hleft)
    obtain ⟨task'', d, hmove'⟩ := Task.exists_move c (show 0 < task.rank by omega)
    obtain ⟨hpoint, hlate⟩ := @Task.exchange_step _ _ _ _ _ _ _ _ L call point hmove' (by omega)
      fun _ => ready_of_reaches before hstart
    rw [hlate] at hmove
    cases hmove
    obtain ⟨start', hfirst, hreaches⟩ := ih hmove' (by omega) fun _ => hstart
    refine ⟨start', hfirst, ?_⟩
    rw [← hpoint]
    exact hreaches.step hleft

end Handler

namespace System

variable {σ π : Type} [MessageStores σ] [Policy π] {s s' t start : System σ π} {index : Nat}
  {call : Handler.Call} {point : Handler.Point} {L : MessageStores.Separation σ} {modules : Nat}

/-! ## A handler inside, and the moves behind it -/

/-- The system with a call inside that took the lock here and came to a point on its own. -/
def inside (s : System σ π) (index : Nat) (call : Handler.Call) (point : Handler.Point)
    (c : Coordinator σ π) : System σ π :=
  { s with
    coordinator := c
    holder := .task index
    tasks := s.tasks.set index (.inside call point)
    order := s.order ++ [index] }

/-- The system when the handler that has finished has given the lock back. -/
def giveBack (s : System σ π) (index : Nat) (call : Handler.Call)
    (result : Except CoordinatorError Outcome) : System σ π :=
  { s with holder := .nobody, tasks := s.tasks.set index (.returned call result) }

/-- Moves that need no lock and touch what a handler has behind it once its rank is at most
`bound`. -/
inductive Others (bound : Nat) (start : System σ π) : List Who → System σ π → Prop
  | nil : Others bound start [] start
  | snoc {moves : List Who} {s s' : System σ π} {who : Who} (before : Others bound start moves s)
      (hlate : bound < s.rankOf who) (last : OtherStep s who s') :
      Others bound start (moves ++ [who]) s'

omit [Policy π] in
theorem OtherStep.isHandler {who : Who} (h : OtherStep s who t) : s.isHandler who = false := by
  cases h with
  | task htask hmove =>
    rw [System.isHandler, htask]
    exact (Task.isHandler_of_move hmove).1
  | stop => rfl

theorem OtherStep.step {who : Who} (h : OtherStep s who t) : s.step who = some t := by
  cases h with
  | @task j task task' c htask hmove =>
    have hother := (Task.isHandler_of_move hmove).1
    rw [System.step, stepTask, htask]
    cases task with
    | waiting | inside | returned => cases hother
    | _ => simp only [hmove, Option.map_some]; rfl
  | @stop move rest hstop hacquire hunlock =>
    rw [System.step, stepStop, hstop]
    cases move with
    | acquire => exact absurd rfl hacquire
    | unlock => exact absurd rfl hunlock
    | _ => rfl

omit [Policy π] in
theorem OtherStep.getElem?_of_inside {who : Who} (h : OtherStep s who t)
    (hinside : s.tasks[index]? = some (.inside call point)) :
    t.tasks[index]? = some (.inside call point) := by
  have hne := h.ne_of_inside hinside
  cases h with
  | @task j => rwa [getElem?_put_ne fun heq => hne (by rw [heq])]
  | stop => exact hinside

omit [Policy π] in
theorem OtherStep.rankOf_same {i : Nat} (h : OtherStep s (.task i) t) :
    t.rankOf (.task i) = 0 ∨ s.rankOf (.task i) < t.rankOf (.task i) := by
  cases h with
  | @task _ task task' c htask hmove =>
    have hback : (s.put i task' c).tasks[i]? = some task' := by
      rw [put, List.getElem?_set_self', htask]
      rfl
    rw [rankOf, rankOf, hback, htask]
    exact Task.rank_move hmove

omit [Policy π] in
theorem OtherStep.holder {who : Who} (h : OtherStep s who t) : t.holder = s.holder := by
  cases h <;> rfl

omit [Policy π] in
theorem OtherStep.giveBack {who : Who} {result : Except CoordinatorError Outcome}
    (h : OtherStep s who t) (hinside : s.tasks[index]? = some (.inside call (.finished result))) :
    OtherStep (s.giveBack index call result) who (t.giveBack index call result) := by
  have hne := h.ne_of_inside hinside
  cases h with
  | @task j task task' c htask hmove =>
    have hij : index ≠ j := fun heq => hne (by rw [heq])
    have htask' : (s.giveBack index call result).tasks[j]? = some task := by
      rw [System.giveBack, List.getElem?_set_ne hij, htask]
    have hsame : (s.put j task' c).giveBack index call result =
        (s.giveBack index call result).put j task' c := by
      simp only [System.giveBack, put, List.set_comm task' _ (Ne.symm hij)]
    rw [hsame]
    exact .task htask' hmove
  | stop hstop hacquire hunlock => exact .stop hstop hacquire hunlock

omit [Policy π] in
theorem OtherStep.hasEntered {who : Who} (h : OtherStep s who t) (hentered : s.HasEntered) :
    t.HasEntered := by
  cases h with
  | task => exact hentered
  | stop hstop => exact fun hmem => hentered (by rw [hstop]; exact List.mem_cons_of_mem _ hmem)

omit [MessageStores σ] [Policy π] in
theorem rankOf_giveBack {who : Who} {result : Except CoordinatorError Outcome}
    (h : who ≠ .task index) : (s.giveBack index call result).rankOf who = s.rankOf who := by
  cases who with
  | stop => rfl
  | task j =>
    rw [rankOf, rankOf, System.giveBack, List.getElem?_set_ne fun heq => h (by rw [heq])]

/-- Where a handler holds the lock, the others move without it. -/
theorem otherStep_of_step {who : Who} (hsound : Sound L modules s) (hheld : s.holder = .task index)
    (hne : who ≠ .task index) (h : s.step who = some t) : OtherStep s who t := by
  cases who with
  | task j =>
    have hholder : s.holder ≠ .task j := by
      rw [hheld]
      exact fun heq => hne (by cases heq; rfl)
    cases taskStep_of_stepTask h with
    | take _ hfree => rw [hheld] at hfree; cases hfree
    | go htask => exact absurd (hsound.task htask).1 hholder
    | give htask => exact absurd (hsound.task htask).1 hholder
    | other htask hmove => exact .task htask hmove
  | stop =>
    cases stopStep_of_stepStop h with
    | acquire _ hfree =>
      rw [hheld] at hfree
      cases hfree
    | unlock hstop =>
      have hat := hsound.stopAt
      rw [hstop, hheld] at hat
      rcases hat.cons with ⟨-, hmove, -⟩ | ⟨hstop', -⟩ | ⟨hstop', -⟩ | ⟨-, hrest⟩
      · cases hmove
      · cases hstop'
      · cases hstop'
      · exact absurd rfl (ne_of_mem_teardown (hrest.subset (List.mem_cons_self ..))).2.2
    | move hstop hacquire hunlock => exact .stop hstop hacquire hunlock

omit [Policy π] in
theorem hasEntered_of_stop (hsound : Sound L modules s) (hheld : s.holder = .task index)
    (h : OtherStep s .stop t) : s.HasEntered := by
  cases h with
  | @stop move rest hstop hacquire hunlock =>
    have hat := hsound.stopAt
    rw [hstop, hheld] at hat
    rcases hat.cons with ⟨-, hmove, -⟩ | ⟨hstop', -⟩ | ⟨hstop', -⟩ | ⟨-, hrest⟩
    · exact absurd hmove hacquire
    · cases hstop'
    · cases hstop'
    · intro hmem
      rw [hstop] at hmem
      exact (ne_of_mem_teardown (hrest.subset hmem)).2.1 rfl

namespace Others

variable {bound : Nat} {moves : List Who}

omit [Policy π] in
theorem getElem?_of_inside (h : Others bound start moves s)
    (hinside : start.tasks[index]? = some (.inside call point)) :
    s.tasks[index]? = some (.inside call point) := by
  induction h with
  | nil => exact hinside
  | snoc _ _ last ih => exact last.getElem?_of_inside ih

omit [Policy π] in
theorem hasEntered (h : Others bound start moves s) (hentered : start.HasEntered) :
    s.HasEntered := by
  induction h with
  | nil => exact hentered
  | snoc _ _ last ih => exact last.hasEntered ih

omit [Policy π] in
theorem ready (h : Others bound start moves s) (hpos : 1 ≤ bound)
    (hready : L.Ready start.coordinator.stores) : L.Ready s.coordinator.stores := by
  induction h with
  | nil => exact hready
  | snoc _ hlate last ih =>
    cases last with
    | task htask hmove => exact Task.ready_move hmove ih
    | stop => rw [rankOf] at hlate; omega

omit [Policy π] in
theorem eq_nil_of_eight (h : Others 8 start moves s) : moves = [] ∧ s = start := by
  cases h with
  | nil => exact ⟨rfl, rfl⟩
  | @snoc moves s' _ who _ hlate last =>
    cases last with
    | @task j task task' c htask hmove =>
      rw [rankOf, htask] at hlate
      cases Task.moves_of_move hmove <;> simp [Task.rank] at hlate
    | stop => simp [rankOf] at hlate

theorem goOn (h : Others point.rank start moves s)
    (hinside : start.tasks[index]? = some (.inside call point)) (hleft : point.result? = none)
    (hready : point.isActive = true → L.Ready start.coordinator.stores) :
    Others (Handler.step call point start.coordinator).1.rank (start.goOn index call point) moves
        (s.goOn index call point) := by
  have hrank := Handler.rank_step_lt call point start.coordinator hleft
  have hpos := one_le_rank hleft
  induction h with
  | nil => exact .nil
  | snoc before hlate last ih =>
    obtain ⟨hlast, hsame, -⟩ := last.goOn (before.getElem?_of_inside hinside) hleft hlate
      fun ha => before.ready hpos (hready ha)
    exact ih.snoc (by omega) hlast

omit [Policy π] in
theorem giveBack {result : Except CoordinatorError Outcome} (h : Others bound start moves s)
    (hinside : start.tasks[index]? = some (.inside call (.finished result))) :
    Others bound (start.giveBack index call result) moves (s.giveBack index call result) := by
  induction h with
  | nil => exact .nil
  | snoc before hlate last ih =>
    have hinside' := before.getElem?_of_inside hinside
    refine ih.snoc ?_ (last.giveBack hinside')
    rwa [rankOf_giveBack (last.ne_of_inside hinside')]

omit [Policy π] in
/-- A move that touches what the handler has not come to yet goes in front of them. -/
theorem early {j : Nat} (h : Others bound start moves s) (hmove : OtherStep s (.task j) t)
    (hearly : s.rankOf (.task j) ≤ bound) :
    ∃ start', OtherStep start (.task j) start' ∧ Others bound start' moves t ∧
      start.rankOf (.task j) = s.rankOf (.task j) := by
  induction h generalizing t with
  | nil => exact ⟨t, hmove, .nil, rfl⟩
  | @snoc moves s s' who before hlate last ih =>
    have htwo := hmove.rankOf_task
    cases who with
    | stop => rw [rankOf] at hlate; omega
    | task i =>
      by_cases hij : i = j
      · subst hij
        -- The same call again: its ranks only grow, so it stays behind.
        rcases last.rankOf_same with hzero | hgreater
        · omega
        · omega
      · obtain ⟨u, hfirst, hsecond, hsame, hsame'⟩ := last.exchange hmove hij (by omega)
        obtain ⟨start', hstart, hothers, hrank⟩ := ih hfirst (by omega)
        exact ⟨start', hstart, hothers.snoc (by omega) hsecond, by omega⟩

end Others

end System

end Replica
