/-
Every run is as good as a serial one.

`System.Span` says how a run with a handler inside is put in order: a serial run
to where the handler took the lock, the handler on its own from there, and the
moves that come behind it. One more move keeps this (`Span.step`). When the handler
gives the lock back it has made its whole call in one go, and the run is a serial
one (`Span.serial`). So is every run in the end in which no handler is inside
(`serial_of_run`).
-/
import Replica.Proofs.Coordinator.Overlap

namespace Replica.System

variable {σ π : Type} [MessageStores σ] [Policy π] {s s' t start : System σ π} {index : Nat}
  {call : Handler.Call} {point : Handler.Point} {L : MessageStores.Separation σ} {modules : Nat}
  {turns : List Turn} {late moves : List Who} {who : Who}

/-! ## Turns -/

/-- The moves of the others in a serial run. -/
def parts (turns : List Turn) : List Who := turns.filterMap Turn.part?

/-- The handler calls of a serial run. -/
def wholes (turns : List Turn) : List Nat := turns.filterMap Turn.whole?

omit [MessageStores σ] [Policy π] in
theorem parts_append (turns turns' : List Turn) : parts (turns ++ turns') = parts turns ++ parts turns' :=
  List.filterMap_append

omit [MessageStores σ] [Policy π] in
theorem wholes_append (turns turns' : List Turn) :
    wholes (turns ++ turns') = wholes turns ++ wholes turns' := List.filterMap_append

theorem parts_map (moves : List Who) : parts (moves.map .part) = moves := by
  rw [parts, List.filterMap_map]
  exact List.filterMap_some

/-- The moves in a run that no handler makes. -/
def foreign (start : System σ π) (moves : List Who) : List Who :=
  moves.filter fun who => !start.isHandler who

omit [MessageStores σ] [Policy π] in
theorem foreign_of_handler (moves : List Who) (h : start.isHandler who = true) :
    start.foreign (moves ++ [who]) = start.foreign moves := by
  simp [foreign, h]

omit [MessageStores σ] [Policy π] in
theorem foreign_of_other (moves : List Who) (h : start.isHandler who = false) :
    start.foreign (moves ++ [who]) = start.foreign moves ++ [who] := by
  simp [foreign, h]

/-! ## What a step leaves alone -/

theorem isHandler_step (h : s.step who = some t) (other : Who) :
    t.isHandler other = s.isHandler other := by
  cases other with
  | stop => rfl
  | task j =>
    have hput {i : Nat} {task task' : Task} (htask : s.tasks[i]? = some task)
        (hsame : task'.isHandler = task.isHandler) :
        ((s.tasks.set i task')[j]?).any Task.isHandler = (s.tasks[j]?).any Task.isHandler := by
      by_cases hij : i = j
      · subst hij
        rw [List.getElem?_set_self', htask]
        exact hsame
      · rw [List.getElem?_set_ne hij]
    cases who with
    | task i =>
      cases taskStep_of_stepTask h with
      | take htask | go htask | give htask => exact hput htask rfl
      | other htask hmove =>
        obtain ⟨hbefore, hafter⟩ := Task.isHandler_of_move hmove
        exact hput htask (hafter.trans hbefore.symm)
    | stop =>
      cases stopStep_of_stepStop h with
      | acquire | unlock | move => rfl

theorem isHandler_run (h : Run start moves s) (other : Who) :
    s.isHandler other = start.isHandler other := by
  induction h with
  | nil => rfl
  | snoc _ last ih => rw [isHandler_step last, ih]

theorem order_serial (h : Serial start turns s) : s.order = start.order ++ wholes turns := by
  induction h with
  | nil => simp [wholes]
  | @whole turns s s' i before last ih =>
    unfold System.whole at last
    split at last
    · split at last
      · cases last
        rw [wholes_append, ← List.append_assoc, ← ih]
        rfl
      · cases last
    · cases last
  | @part turns s s' who before hother last ih =>
    have hnone : wholes [.part who] = [] := rfl
    rw [wholes_append, hnone, List.append_nil, ← ih]
    cases who with
    | task j =>
      cases taskStep_of_stepTask last with
      | take htask => rw [isHandler, htask] at hother; cases hother
      | go | give | other => rfl
    | stop =>
      cases stopStep_of_stepStop last with
      | acquire | unlock | move => rfl

/-! ## A run with a handler inside, put in order -/

/-- **A run with a handler inside, put in order**: a serial run to where it took the lock, the handler
on its own from there, and the moves behind it. -/
inductive Span (L : MessageStores.Separation σ) (modules : Nat) (start : System σ π) (index : Nat)
    (turns : List Turn) (late : List Who) (s : System σ π) : Prop
  | mk {r : System σ π} {call : Handler.Call} {point : Handler.Point} {c : Coordinator σ π}
      (serial : Serial start turns r) (sound : Sound L modules r) (free : r.holder = .nobody)
      (task : r.tasks[index]? = some (.waiting call))
      (reaches : Handler.Reaches call r.coordinator point c)
      (others : Others point.rank (r.inside index call point c) late s) :
      Span L modules start index turns late s

omit [MessageStores σ] [Policy π] in
theorem getElem?_inside {c : Coordinator σ π} (h : s.tasks[index]? = some (.waiting call)) :
    (s.inside index call point c).tasks[index]? = some (.inside call point) := by
  rw [inside, List.getElem?_set_self', h]
  rfl

omit [MessageStores σ] [Policy π] in
theorem inside_put {j : Nat} {task : Task} {c d : Coordinator σ π} (hij : index ≠ j) :
    (s.inside index call point c).put j task d = (s.put j task c).inside index call point d := by
  simp only [inside, put, List.set_comm _ _ hij]

theorem Span.goOn (h : Span L modules start index turns late s)
    (hinside : s.tasks[index]? = some (.inside call point)) (hleft : point.result? = none)
    (hactive : point.isActive = true → ¬ s.HasEntered) :
    Span L modules start index turns late (s.goOn index call point) := by
  obtain ⟨serial, sound, free, task, reaches, others⟩ := h
  rename_i r call' point' c
  have hsame := others.getElem?_of_inside (getElem?_inside task)
  rw [hinside] at hsame
  cases hsame
  refine .mk serial sound free task (reaches.step hleft) ?_
  have hgo := others.goOn (getElem?_inside task) hleft fun ha =>
    Handler.ready_of_reaches reaches (sound.ready fun he => hactive ha (others.hasEntered he))
  have hnext : (r.inside index call point c).goOn index call point =
      r.inside index call (Handler.step call point c).1 (Handler.step call point c).2 := by
    simp only [System.goOn, inside, put, List.set_set]
  rwa [hnext] at hgo

/-- Moves behind a handler that has given the lock back are moves of a serial run. -/
theorem Others.serial {bound : Nat} (h : Others bound s late t) (hserial : Serial start turns s) :
    Serial start (turns ++ late.map .part) t := by
  induction h with
  | nil => simpa using hserial
  | snoc _ _ last ih =>
    rw [List.map_append, ← List.append_assoc]
    exact ih.part last.isHandler last.step

/-- **The handler gives the lock back**, and has made its call in one go. -/
theorem Span.serial {result : Except CoordinatorError Outcome}
    (h : Span L modules start index turns late s)
    (hinside : s.tasks[index]? = some (.inside call (.finished result))) :
    Serial start (turns ++ [.whole index] ++ late.map .part) (s.giveBack index call result) := by
  obtain ⟨serial, -, free, task, reaches, others⟩ := h
  rename_i r call' point' c
  have hsame := others.getElem?_of_inside (getElem?_inside task)
  rw [hinside] at hsame
  cases hsame
  have hwhole : r.whole index =
      some ((r.inside index call (.finished result) c).giveBack index call result) := by
    unfold System.whole
    simp only [task, free, ↓reduceIte, Handler.handle_of_reaches_finished reaches, System.giveBack,
      inside, List.set_set]
  exact (others.giveBack (getElem?_inside task)).serial (serial.whole hwhole)

omit [Policy π] in
/-- A move that does not go behind a handler meets it before its result, as nobody touches what comes
behind that. -/
theorem OtherStep.isActive_of_not_late (h : OtherStep s who t) (hlate : ¬ point.rank < s.rankOf who)
    (hcheck : point ≠ .check) : point.isActive = true := by
  cases point with
  | check => exact absurd rfl hcheck
  | finished =>
    cases who with
    | task j =>
      have htwo := h.rankOf_task
      simp only [Handler.Point.rank] at hlate
      omega
    | stop => exact absurd Nat.zero_lt_one hlate
  | _ => rfl

/-- **A move of somebody else** while a handler is inside goes in front of it or behind it. -/
theorem Span.other (h : Span L modules start index turns late s) (hsound : Sound L modules s)
    (hheld : s.holder = .task index) (hinside : s.tasks[index]? = some (.inside call point))
    (hmove : OtherStep s who t) :
    ∃ turns' late', Span L modules start index turns' late' t ∧
      (parts turns' ++ late').Perm (parts turns ++ late ++ [who]) := by
  obtain ⟨serial, sound, free, task, reaches, others⟩ := h
  rename_i r call' point' c
  have hsame := others.getElem?_of_inside (getElem?_inside task)
  rw [hinside] at hsame
  cases hsame
  obtain ⟨-, hactive, -⟩ := hsound.task hinside
  -- A move of greater rank than the handler's point waits behind it; any other goes in front.
  by_cases hlate : point.rank < s.rankOf who
  · refine ⟨turns, late ++ [who], .mk serial sound free task reaches (others.snoc hlate hmove), ?_⟩
    rw [List.append_assoc]
  · have hready : point ≠ .check → L.Ready r.coordinator.stores := by
      intro hcheck
      have hpast := hmove.isActive_of_not_late hlate hcheck
      exact sound.ready fun he => hactive hpast (others.hasEntered he)
    cases who with
    | task j =>
      have hij : index ≠ j := fun heq => hmove.ne_of_inside hinside (by rw [heq])
      obtain ⟨first, hfirst, hothers, hrank⟩ := others.early hmove (by omega)
      cases hfirst with
      | @task _ other other' d hother hearly =>
        rw [rankOf, hother] at hrank
        have hearlier : other.rank ≤ point.rank := by
          simp only [Option.elim_some] at hrank
          omega
        obtain ⟨d', hr, hreaches⟩ := Handler.reaches_of_move reaches hearly hearlier hready
        rw [inside, List.getElem?_set_ne hij] at hother
        have hstep : OtherStep r (.task j) (r.put j other' d') := .task hother hr
        rw [inside_put hij] at hothers
        refine ⟨turns ++ [.part (.task j)], late,
          .mk (serial.part hstep.isHandler hstep.step) (sound_step sound hstep.step) free
            (by rw [getElem?_put_ne (Ne.symm hij), task]) hreaches hothers, ?_⟩
        rw [parts_append, List.append_assoc, List.append_assoc]
        exact (List.perm_append_comm).append_left _
    | stop =>
      -- The handler is still at its check, so nothing waits behind it.
      have hentered := hasEntered_of_stop hsound hheld hmove
      have hcheck : point = .check := Classical.byContradiction fun hne =>
        hactive (hmove.isActive_of_not_late hlate hne) hentered
      subst hcheck
      obtain rfl := Handler.eq_of_reaches_check reaches
      obtain ⟨rfl, rfl⟩ := others.eq_nil_of_eight
      cases hmove with
      | @stop move rest hstop hacquire hunlock =>
        have hstep : OtherStep r .stop { r with coordinator := move.run r.coordinator, stop := rest } :=
          .stop hstop hacquire hunlock
        refine ⟨turns ++ [.part .stop], [],
          .mk (serial.part hstep.isHandler hstep.step) (sound_step sound hstep.step) free task
            .check .nil, ?_⟩
        rw [parts_append, List.append_nil, List.append_nil]
        rfl

/-! ## Whole runs -/

/-- **How a run is put in order**: as a serial run if no handler is inside, else as a span. In both all
moves of calls that are no handlers and of the stop are there. -/
inductive Ordered (L : MessageStores.Separation σ) (modules : Nat) (start : System σ π)
    (moves : List Who) (s : System σ π) : Prop
  | free {turns : List Turn} (h : ¬ s.IsBusy) (serial : Serial start turns s)
      (perm : (parts turns).Perm (start.foreign moves))
  | busy {index : Nat} {turns : List Turn} {late : List Who} (h : s.holder = .task index)
      {call : Handler.Call} {point : Handler.Point}
      (inside : s.tasks[index]? = some (.inside call point))
      (span : Span L modules start index turns late s)
      (perm : (parts turns ++ late).Perm (start.foreign moves))

theorem ordered_step_of_free (hsound : Sound L modules s)
    (hkind : ∀ other, s.isHandler other = start.isHandler other) (hfree : ¬ s.IsBusy)
    (hserial : Serial start turns s)
    (hperm : (parts turns).Perm (start.foreign moves))
    (hstep : s.step who = some t) : Ordered L modules start (moves ++ [who]) t := by
  -- A move of somebody else becomes a turn of its own.
  have hpart (hother : s.isHandler who = false) (hfree' : ¬ t.IsBusy) :
      Ordered L modules start (moves ++ [who]) t := by
    refine .free hfree' (hserial.part hother hstep) ?_
    rw [parts_append, foreign_of_other moves ((hkind who).symm.trans hother)]
    exact hperm.append_right _
  cases who with
  | task j =>
    cases taskStep_of_stepTask hstep with
    | @take call htask hnobody =>
      have hhandler : start.isHandler (.task j) = true := by
        rw [← hkind, isHandler, htask]
        rfl
      refine .busy rfl (getElem?_inside htask) (.mk hserial hsound hnobody htask .check .nil) ?_
      rw [foreign_of_handler moves hhandler, List.append_nil]
      exact hperm
    | go htask => exact absurd ⟨j, (hsound.task htask).1⟩ hfree
    | give htask => exact absurd ⟨j, (hsound.task htask).1⟩ hfree
    | @other task task' c htask hmove =>
      refine hpart ?_ hfree
      rw [isHandler, htask]
      exact (Task.isHandler_of_move hmove).1
  | stop =>
    refine hpart rfl ?_
    rintro ⟨i, hi⟩
    cases stopStep_of_stepStop hstep with
    | acquire => cases hi
    | unlock => cases hi
    | move => exact hfree ⟨i, hi⟩

theorem ordered_step_of_busy (hsound : Sound L modules s)
    (hkind : ∀ other, s.isHandler other = start.isHandler other) (hheld : s.holder = .task index)
    (hinside : s.tasks[index]? = some (.inside call point))
    (hspan : Span L modules start index turns late s)
    (hperm : (parts turns ++ late).Perm (start.foreign moves))
    (hstep : s.step who = some t) : Ordered L modules start (moves ++ [who]) t := by
  obtain ⟨-, hactive, -⟩ := hsound.task hinside
  by_cases hsame : who = .task index
  · subst hsame
    have hhandler : start.isHandler (.task index) = true := by
      rw [← hkind, isHandler, hinside]
      rfl
    have hdrop := foreign_of_handler moves hhandler
    cases taskStep_of_stepTask hstep with
    | take htask =>
      rw [hinside] at htask
      cases htask
    | go htask hleft =>
      rw [hinside] at htask
      cases htask
      have hnext : (s.goOn index call point).tasks[index]? =
          some (.inside call (Handler.step call point s.coordinator).1) := by
        rw [System.goOn, put, List.getElem?_set_self', hinside]
        rfl
      exact .busy hheld hnext (hspan.goOn hinside hleft hactive) (by rwa [hdrop])
    | give htask =>
      rw [hinside] at htask
      cases htask
      refine .free ?_ (hspan.serial hinside) ?_
      · rintro ⟨i, hi⟩
        cases hi
      · have hnone : parts [Turn.whole index] = [] := rfl
        rw [parts_append, parts_append, parts_map, hdrop, hnone, List.append_nil]
        exact hperm
    | other htask hmove =>
      rw [hinside] at htask
      cases htask
      cases hmove
  · have hmove := otherStep_of_step hsound hheld hsame hstep
    obtain ⟨turns', late', hspan', hperm'⟩ := hspan.other hsound hheld hinside hmove
    refine .busy (hmove.holder.trans hheld) (hmove.getElem?_of_inside hinside) hspan' ?_
    rw [foreign_of_other moves ((hkind who).symm.trans hmove.isHandler)]
    exact hperm'.trans (hperm.append_right _)

theorem ordered_run (hsound : Sound L modules start) (hfree : ¬ start.IsBusy)
    (h : Run start moves s) : Ordered L modules start moves s := by
  induction h with
  | nil => exact .free hfree .nil .nil
  | snoc before last ih =>
    have hsound' := sound_run hsound before
    cases ih with
    | free hfree' hserial hperm =>
      exact ordered_step_of_free hsound' (isHandler_run before) hfree' hserial hperm last
    | busy hheld hinside hspan hperm =>
      exact ordered_step_of_busy hsound' (isHandler_run before) hheld hinside hspan hperm last

/-- **Messages are serialized**: a run with no handler inside ends as a serial run ends that makes the
handler calls in the order in which they took the lock, and every move of the others between them. -/
theorem serial_of_run (hsound : Sound L modules start) (hfree : ¬ start.IsBusy)
    (h : Run start moves s) (hfree' : ¬ s.IsBusy) :
    ∃ turns, Serial start turns s ∧ s.order = start.order ++ wholes turns ∧
      (parts turns).Perm (start.foreign moves) := by
  cases ordered_run hsound hfree h with
  | free _ hserial hperm => exact ⟨_, hserial, order_serial hserial, hperm⟩
  | busy hheld => exact absurd ⟨_, hheld⟩ hfree'

end Replica.System
