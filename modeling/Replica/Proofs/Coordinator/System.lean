/-
Many calls at once, and one stop.

A system is a coordinator, the lock its handlers share, the calls made through
its handles and the stop. `System.step` lets one of them make one move, and a run
is any order of moves in which nobody moves who has to wait. A handler call takes
the lock, goes from point to point and gives the lock back; the other calls never
take it. A serial run makes every handler call in one go (`System.whole`) and only
the moves of the others one by one.
-/
import Replica.Proofs.Coordinator.Separation
import Replica.Strategy

namespace Replica

/-- Who holds the lock. -/
inductive Holder
  | nobody
  | task (index : Nat)
  | stop
  deriving DecidableEq, Repr, Inhabited

/-- How far a call for a fatal shutdown has come. -/
inductive ShutdownStage
  | fire
  /-- Accepted, about to note it in the lifecycle state. -/
  | note
  | returned (accepted : Bool)
  deriving DecidableEq, Repr, Inhabited

/-- A call through a handle and how far it has come. -/
inductive Task
  /-- A handler call, about to take the lock. -/
  | waiting (call : Handler.Call)
  /-- A handler call that holds the lock. -/
  | inside (call : Handler.Call) (point : Handler.Point)
  | returned (call : Handler.Call) (result : Except CoordinatorError Outcome)
  | dequeue (answer : Option (Except CoordinatorError (Option Message)))
  | shutdown (error : CoordinatorError) (stage : ShutdownStage)
  deriving Inhabited

namespace Task

/-- Whether a handler call. -/
def isHandler : Task → Bool
  | waiting _ | inside .. | returned .. => true
  | dequeue _ | shutdown .. => false

/-- Whether a call nobody has begun. -/
def isNew : Task → Bool
  | waiting _ | dequeue none | shutdown _ .fire => true
  | _ => false

variable {σ π : Type} [MessageStores σ]

/-- The next move of a call that never takes the lock. -/
def move : Task → Coordinator σ π → Option (Task × Coordinator σ π)
  | dequeue none, c => some (dequeue (some c.dequeue.1), c.dequeue.2)
  | shutdown error .fire, c =>
    some (shutdown error (if (c.offer error).1 then .note else .returned false), (c.offer error).2)
  | shutdown error .note, c => some (shutdown error (.returned true), c.noteFatal)
  | _, _ => none

/-- **The moves of a call that never takes the lock**: it dequeues, offers an error, or notes one. -/
inductive Moves (c : Coordinator σ π) : Task → Task → Coordinator σ π → Prop
  | dequeue : Moves c (.dequeue none) (.dequeue (some c.dequeue.1)) c.dequeue.2
  | fire (error : CoordinatorError) :
      Moves c (.shutdown error .fire)
        (.shutdown error (if (c.offer error).1 then .note else .returned false)) (c.offer error).2
  | note (error : CoordinatorError) :
      Moves c (.shutdown error .note) (.shutdown error (.returned true)) c.noteFatal

theorem moves_of_move {task task' : Task} {c c' : Coordinator σ π}
    (h : task.move c = some (task', c')) : Moves c task task' c' := by
  unfold move at h
  split at h
  · cases h
    exact .dequeue
  · cases h
    exact .fire _
  · cases h
    exact .note _
  · cases h

end Task

/-- A move of a stop. -/
inductive StopMove
  /-- Takes the lock. -/
  | acquire
  /-- Stops accepting messages. -/
  | enter
  /-- Gives the lock back. -/
  | unlock
  | silence
  /-- Asks a module to stop. -/
  | askModule
  /-- A module has stopped. -/
  | awaitModule
  | closeQueue
  | closeHistory
  | closeState
  /-- Gives the lock of the data directory back. -/
  | release
  | finish
  deriving DecidableEq, Repr, Inhabited

namespace StopMove

variable {σ π : Type} [MessageStores σ]

/-- What a move does to the coordinator. -/
def run (c : Coordinator σ π) : StopMove → Coordinator σ π
  | acquire | unlock | silence | askModule | awaitModule => c
  | enter => c.enterStopping
  | closeQueue => { c with stores := MessageStores.closeQueue c.stores }
  | closeHistory => { c with stores := MessageStores.closeHistory c.stores }
  | closeState => { c with stores := MessageStores.closeState c.stores }
  | release => c.release
  | finish => c.setState .stopped

/-- The moves behind the one that gives the lock back. -/
def teardown (modules : Nat) : List StopMove :=
  silence :: (List.replicate modules askModule ++ List.replicate modules awaitModule ++
    [closeQueue, closeHistory, closeState, release, finish])

/-- The moves of a stop of a coordinator with so many modules. -/
def script (modules : Nat) : List StopMove := acquire :: enter :: unlock :: teardown modules

/-- A host that is nothing but a coordinator. -/
def bareHost (σ π : Type) : Host (Coordinator σ π) σ π := ⟨fun change c => change c, id⟩

/-- A module that keeps away from the coordinator. -/
def idleModule (σ π : Type) : Strategy (Coordinator σ π) := ⟨"", fun c => (.ok (), c), fun _ c => c, id⟩

theorem foldl_replicate_of_fixed {α β : Type} {f : α → β → α} {a : α} {b : β} (n : Nat)
    (h : f a b = a) : (List.replicate n b).foldl f a = a := by
  induction n with
  | zero => rfl
  | succ n ih => rw [List.replicate_succ, List.foldl_cons, h, ih]

/-- Made one after another, the moves take the coordinator down. -/
theorem foldl_script (modules grace : Nat) (c : Coordinator σ π) :
    (script modules).foldl run c =
      (bareHost σ π).tearDown grace (List.replicate modules (idleModule σ π)) c := by
  have hstop (w : Coordinator σ π) :
      Strategy.stopAll grace (List.replicate modules (idleModule σ π)) w = w :=
    foldl_replicate_of_fixed modules rfl
  have hwait (w : Coordinator σ π) :
      Strategy.waitAll (List.replicate modules (idleModule σ π)) w = w :=
    foldl_replicate_of_fixed modules rfl
  have hask (w : Coordinator σ π) : (List.replicate modules askModule).foldl run w = w :=
    foldl_replicate_of_fixed modules rfl
  have hawait (w : Coordinator σ π) : (List.replicate modules awaitModule).foldl run w = w :=
    foldl_replicate_of_fixed modules rfl
  simp only [script, teardown, List.foldl_cons, List.foldl_append, run, hask, hawait,
    Host.tearDown, hstop, hwait]
  rfl

end StopMove

/-- A coordinator, the lock of its handlers, the calls made through its handles, and the stop. -/
structure System (σ π : Type) where
  coordinator : Coordinator σ π
  holder : Holder
  tasks : List Task
  /-- What the stop has left to do. -/
  stop : List StopMove
  /-- The handler calls in the order in which they took the lock. -/
  order : List Nat

/-- Who makes a move. -/
inductive Who
  | task (index : Nat)
  | stop
  deriving DecidableEq, Repr, Inhabited

namespace System

variable {σ π : Type} [MessageStores σ] [Policy π]

/-- A call makes its next move; none if there is none or if it has to wait. -/
def stepTask (index : Nat) (s : System σ π) : Option (System σ π) :=
  match s.tasks[index]? with
  | none => none
  | some (.waiting call) =>
    if s.holder = .nobody then
      some { s with
        holder := .task index
        tasks := s.tasks.set index (.inside call .check)
        order := s.order ++ [index] }
    else none
  | some (.inside call (.finished result)) =>
    some { s with holder := .nobody, tasks := s.tasks.set index (.returned call result) }
  | some (.inside call point) =>
    let next := Handler.step call point s.coordinator
    some { s with coordinator := next.2, tasks := s.tasks.set index (.inside call next.1) }
  | some task =>
    (task.move s.coordinator).map fun (task', coordinator) =>
      { s with coordinator, tasks := s.tasks.set index task' }

/-- The stop makes its next move; none if there is none or if it has to wait. -/
def stepStop (s : System σ π) : Option (System σ π) :=
  match s.stop with
  | [] => none
  | .acquire :: rest =>
    if s.holder = .nobody then some { s with holder := .stop, stop := rest } else none
  | .unlock :: rest => some { s with holder := .nobody, stop := rest }
  | move :: rest => some { s with coordinator := move.run s.coordinator, stop := rest }

/-- **One move**. -/
def step : Who → System σ π → Option (System σ π)
  | .task index, s => s.stepTask index
  | .stop, s => s.stepStop

/-- **A run**: moves in any order. -/
inductive Run (start : System σ π) : List Who → System σ π → Prop
  | nil : Run start [] start
  | snoc {moves : List Who} {s s' : System σ π} {who : Who} (before : Run start moves s)
      (last : s.step who = some s') : Run start (moves ++ [who]) s'

/-- A handler call in one go. -/
def whole (index : Nat) (s : System σ π) : Option (System σ π) :=
  match s.tasks[index]? with
  | some (.waiting call) =>
    if s.holder = .nobody then
      let done := Handler.handle call s.coordinator
      some { s with
        coordinator := done.2
        tasks := s.tasks.set index (.returned call done.1)
        order := s.order ++ [index] }
    else none
  | _ => none

/-- Whether it is a handler call that would move. -/
def isHandler (s : System σ π) : Who → Bool
  | .task index => (s.tasks[index]?).any Task.isHandler
  | .stop => false

/-- One turn of a serial run: a whole handler call, or one move of another call or of the stop. -/
inductive Turn
  | whole (index : Nat)
  | part (who : Who)
  deriving DecidableEq, Repr, Inhabited

/-- The handler call of a turn. -/
def Turn.whole? : Turn → Option Nat
  | whole index => some index
  | part _ => none

/-- Who makes the move of a turn that is no handler call. -/
def Turn.part? : Turn → Option Who
  | whole _ => none
  | part who => some who

/-- **A serial run**: handler calls one after another, and moves of the others between them. -/
inductive Serial (start : System σ π) : List Turn → System σ π → Prop
  | nil : Serial start [] start
  | whole {turns : List Turn} {s s' : System σ π} {index : Nat} (before : Serial start turns s)
      (last : s.whole index = some s') : Serial start (turns ++ [.whole index]) s'
  | part {turns : List Turn} {s s' : System σ π} {who : Who} (before : Serial start turns s)
      (hother : s.isHandler who = false) (last : s.step who = some s') :
      Serial start (turns ++ [.part who]) s'

/-- A coordinator with calls nobody has begun and a stop that has not begun. -/
def initial (c : Coordinator σ π) (calls : List Task) (modules : Nat) : System σ π :=
  ⟨c, .nobody, calls, StopMove.script modules, []⟩

/-- Whether a handler call is between taking the lock and giving it back. -/
def IsBusy (s : System σ π) : Prop := ∃ index, s.holder = .task index

/-- Whether the stop has stopped the acceptance of messages. -/
def HasEntered (s : System σ π) : Prop := StopMove.enter ∉ s.stop

end System

end Replica
