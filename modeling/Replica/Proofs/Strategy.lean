/-
Modules and the world their coordinator runs in.

A module knows its world only through its seat. If one world is placed in another so that
their seats do the same (`Seat.Mirrors`), modules go through the same in both, and so do
bringing up and taking down a coordinator (`Host.bringUp_mirrors`,
`Host.tearDown_mirrors`). The smallest such world is a coordinator with a journal beside it
(`Host.beside`, `Seat.beside`).

All that a module does to its coordinator while it starts are calls through its handle
(`Strategy.IsDiscreet`). Messages are not accepted then, and of the other calls only taking a
message changes a store, so modules that take none leave the stores as they were opened
(`Coordinator.Asked.stores`).
-/
import Replica.Strategy.Recording
import Replica.Strategy.Script
import Replica.Proofs.Coordinator.Course

namespace Replica

/-! ## The same in two worlds -/

section Mirrors

variable {α D W σ π : Type} {place place' : D → W} {seat : Seat W} {seat' : Seat D}
  {host : Host W σ π} {host' : Host D σ π}

/-- **The seats of two worlds do the same**, one of which is placed in the other. -/
structure Seat.Mirrors (place : D → W) (seat : Seat W) (seat' : Seat D) : Prop where
  call (request : HandleCall) (d : D) :
    seat.call request (place d) = ((seat'.call request d).1, place (seat'.call request d).2)
  record (event : Event) (d : D) : seat.record event (place d) = place (seat'.record event d)
  yield (d : D) : seat.yield (place d) = place (seat'.yield d)

namespace Strategy

/-- **A module goes through the same in two worlds.** -/
structure Mirrors (place : D → W) (m : Strategy W) (m' : Strategy D) : Prop where
  name : m.name = m'.name
  start (d : D) : m.start (place d) = ((m'.start d).1, place (m'.start d).2)
  stop (grace : Nat) (d : D) : m.stop grace (place d) = place (m'.stop grace d)
  wait (d : D) : m.wait (place d) = place (m'.wait d)

variable {plans : List α} {f : α → Strategy W} {g : α → Strategy D}

theorem startAll_mirrors (h : ∀ a ∈ plans, Mirrors place (f a) (g a)) (d : D) :
    startAll (plans.map f) (place d) =
      ((startAll (plans.map g) d).1, place (startAll (plans.map g) d).2) := by
  induction plans generalizing d with
  | nil => rfl
  | cons a rest ih =>
    obtain ⟨ha, hrest⟩ := List.forall_mem_cons.1 h
    rw [List.map_cons, List.map_cons, startAll, startAll, ha.start, ha.name]
    cases (g a).start d with
    | mk result d' =>
      cases result with
      | error text => rfl
      | ok _ => exact ih hrest d'

theorem stopAll_mirrors (h : ∀ a ∈ plans, Mirrors place (f a) (g a)) (grace : Nat) (d : D) :
    stopAll grace (plans.map f) (place d) = place (stopAll grace (plans.map g) d) := by
  induction plans generalizing d with
  | nil => rfl
  | cons a rest ih =>
    obtain ⟨ha, hrest⟩ := List.forall_mem_cons.1 h
    simp only [stopAll, List.map_cons, List.foldl_cons] at ih ⊢
    rw [ha.stop, ih hrest]

theorem waitAll_mirrors (h : ∀ a ∈ plans, Mirrors place (f a) (g a)) (d : D) :
    waitAll (plans.map f) (place d) = place (waitAll (plans.map g) d) := by
  induction plans generalizing d with
  | nil => rfl
  | cons a rest ih =>
    obtain ⟨ha, hrest⟩ := List.forall_mem_cons.1 h
    simp only [waitAll, List.map_cons, List.foldl_cons] at ih ⊢
    rw [ha.wait, ih hrest]

end Strategy

namespace Host

open Strategy (Mirrors)

variable {plans : List α} {f : α → Strategy W} {g : α → Strategy D}

/-- **Bringing up is the same in both worlds.** -/
theorem bringUp_mirrors
    (hupdate : ∀ change d, host.update change (place d) = place (host'.update change d))
    (h : ∀ a ∈ plans, Mirrors place (f a) (g a)) (d : D) :
    host.bringUp (plans.map f) (place d) =
      ((host'.bringUp (plans.map g) d).1, place (host'.bringUp (plans.map g) d).2) := by
  rw [bringUp, bringUp, Strategy.startAll_mirrors h]
  cases Strategy.startAll (plans.map g) d with
  | mk result d' =>
    cases result with
    | error e => rfl
    | ok _ =>
      dsimp only
      rw [hupdate]

/-- **Taking down is the same in both worlds**, one placed in the other in another way once signals are
not listened to any more. -/
theorem tearDown_mirrors [MessageStores σ]
    (hupdate : ∀ change d, host.update change (place d) = place (host'.update change d))
    (hsilence : ∀ d, host.silence (place d) = place' (host'.silence d))
    (hupdate' : ∀ change d, host.update change (place' d) = place' (host'.update change d))
    (h : ∀ a ∈ plans, Mirrors place' (f a) (g a)) (grace : Nat) (d : D) :
    host.tearDown grace (plans.map f) (place d) = place' (host'.tearDown grace (plans.map g) d) := by
  simp only [tearDown]
  rw [hupdate, hsilence, Strategy.stopAll_mirrors h, Strategy.waitAll_mirrors h, hupdate', hupdate',
    hupdate']

end Host

theorem RecordingModule.mirrors (h : seat.Mirrors place seat') (m : RecordingModule) :
    Strategy.Mirrors place (m.strategy seat) (m.strategy seat') where
  name := rfl
  start d := by
    show m.start seat (place d) = ((m.start seat' d).1, place (m.start seat' d).2)
    simp only [start, h.record, h.call]
    split
    · rfl
    · split <;> rfl
  stop _ d := h.record _ d
  wait d := by
    show m.wait seat (place d) = place (m.wait seat' d)
    simp only [wait, h.yield, h.call, h.record]

theorem ScriptModule.play_mirrors (h : seat.Mirrors place seat') (name : String) (phase : Phase)
    (calls : List HandleCall) (d : D) :
    play seat name phase calls (place d) = place (play seat' name phase calls d) := by
  induction calls generalizing d with
  | nil => rfl
  | cons request rest ih =>
    simp only [play, List.foldl_cons, h.call, h.record] at ih ⊢
    exact ih _

theorem ScriptModule.mirrors (h : seat.Mirrors place seat') (m : ScriptModule) :
    Strategy.Mirrors place (m.strategy seat) (m.strategy seat') where
  name := rfl
  start d := by simp only [strategy, play_mirrors h]
  stop grace d := by simp only [strategy, h.record, play_mirrors h]
  wait d := by simp only [strategy, play_mirrors h, h.record]

end Mirrors

/-! ## A coordinator and a journal -/

/-- A coordinator and what else its modules change, as the host of the coordinator. -/
def Host.beside (σ π ω : Type) : Host (Coordinator σ π × ω) σ π :=
  ⟨fun change w => (change w.1, w.2), id⟩

section Modules

variable {σ π ω : Type} [MessageStores σ] [Policy π] {c c' : Coordinator σ π}

/-- The seat of a module beside its coordinator, where nothing else goes on. -/
def Seat.beside (σ π : Type) [MessageStores σ] [Policy π] : Seat (Coordinator σ π × List Event) where
  call request w := ((w.1.answer request).1, (w.1.answer request).2, w.2)
  record event w := (w.1, w.2 ++ [event])
  yield w := w

/-! ## Modules that keep to themselves -/

/-- **A coordinator behind calls through its handle** that take no message. -/
inductive Coordinator.Asked (c : Coordinator σ π) : Coordinator σ π → Prop
  | nothing : Asked c c
  | call {c' : Coordinator σ π} (h : Asked c c') (request : HandleCall) (hrequest : request ≠ .dequeue) :
      Asked c (c'.answer request).2

/-- **A module that keeps its handle to itself and takes no message**: all that happens to the
coordinator while the module starts are its calls. -/
def Strategy.IsDiscreet (m : Strategy (Coordinator σ π × ω)) : Prop :=
  ∀ c rest, Coordinator.Asked c (m.start (c, rest)).2.1

theorem Coordinator.Asked.trans {c'' : Coordinator σ π} (h : Asked c c') (h' : Asked c' c'') :
    Asked c c'' := by
  induction h' with
  | nothing => exact h
  | call _ request hrequest ih => exact .call ih request hrequest

omit [MessageStores σ] [Policy π] in
theorem Coordinator.refuses_shutdown (h : c.state.acceptsMessages = false) (error : CoordinatorError) :
    (c.shutdown error).2.state.acceptsMessages = false := by
  unfold shutdown
  rcases c.offer_cases error with ⟨-, hoffer⟩ | ⟨-, hoffer, -, hstate⟩
  · rw [hoffer]
    exact h
  · split
    · exact Lifecycle.acceptsMessages_of_not_mayRun (mayRun_noteFatal _)
    · rename_i heq
      rw [heq] at hstate
      rw [hstate]
      exact h

/-- **Where messages are not accepted**, calls change no store and messages stay unaccepted. -/
theorem Coordinator.Asked.stores (h : Asked c c') (hrefuses : c.state.acceptsMessages = false) :
    c'.stores = c.stores ∧ c'.state.acceptsMessages = false := by
  induction h with
  | nothing => exact ⟨rfl, hrefuses⟩
  | @call c' _ request hrequest ih =>
    obtain ⟨hstores, hstill⟩ := ih
    cases request with
    | dequeue => exact absurd rfl hrequest
    | new message =>
      simp only [answer, handleNew, Handler.handle_of_refuses _ hstill]
      exact ⟨hstores, hstill⟩
    | remote message =>
      simp only [answer, handleRemote, Handler.handle_of_refuses _ hstill]
      exact ⟨hstores, hstill⟩
    | peek | digest | status => exact ⟨hstores, hstill⟩
    | shutdown error =>
      exact ⟨(c'.stores_shutdown error).trans hstores, refuses_shutdown hstill error⟩

namespace Strategy

variable {modules : List (Strategy (Coordinator σ π × ω))}

theorem asked_startAll (h : ∀ m ∈ modules, m.IsDiscreet) (w : Coordinator σ π × ω) :
    Coordinator.Asked w.1 (startAll modules w).2.1 := by
  induction modules generalizing w with
  | nil => exact .nothing
  | cons m rest ih =>
    obtain ⟨hm, hrest⟩ := List.forall_mem_cons.1 h
    have hstart := hm w.1 w.2
    rw [startAll]
    cases hrun : m.start w with
    | mk result w' =>
      rw [hrun] at hstart
      cases result with
      | error text => exact hstart
      | ok a => exact hstart.trans (ih hrest w')

omit [MessageStores σ] [Policy π] in
theorem startAll_ok (h : ∀ m ∈ modules, ∀ w, (m.start w).1 = .ok ()) (w : Coordinator σ π × ω) :
    (startAll modules w).1 = .ok () := by
  induction modules generalizing w with
  | nil => rfl
  | cons m rest ih =>
    obtain ⟨hm, hrest⟩ := List.forall_mem_cons.1 h
    have hstart := hm w
    rw [startAll]
    cases hrun : m.start w with
    | mk result w' =>
      rw [hrun] at hstart
      cases hstart
      exact ih hrest w'

end Strategy

theorem RecordingModule.isDiscreet (m : RecordingModule) :
    (m.strategy (Seat.beside σ π)).IsDiscreet := by
  intro c events
  show Coordinator.Asked c (m.start (Seat.beside σ π) (c, events)).2.1
  simp only [start, Seat.beside]
  split
  · exact .nothing
  · split
    · exact .call .nothing _ (by simp)
    · exact .nothing

theorem ScriptModule.asked_play (name : String) (phase : Phase) {calls : List HandleCall}
    (h : HandleCall.dequeue ∉ calls) (w : Coordinator σ π × List Event) :
    Coordinator.Asked w.1 (play (Seat.beside σ π) name phase calls w).1 := by
  induction calls generalizing w with
  | nil => exact .nothing
  | cons request rest ih =>
    rw [List.mem_cons, not_or] at h
    have hcall : Coordinator.Asked w.1 (w.1.answer request).2 :=
      .call .nothing request fun heq => h.1 heq.symm
    exact hcall.trans (ih h.2
      ((w.1.answer request).2, w.2 ++ [Event.called name phase (w.1.answer request).1]))

theorem ScriptModule.isDiscreet {m : ScriptModule} (h : HandleCall.dequeue ∉ m.onStart) :
    (m.strategy (Seat.beside σ π)).IsDiscreet :=
  fun c events => asked_play m.name .onStart h (c, events)

end Modules

end Replica
