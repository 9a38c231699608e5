/-
A coordinator in service, from the start of its modules to the end of its stop.

The start brings the modules up one after another and then lets messages in; the stop
takes them down again and closes the stores. Meanwhile calls are made through handles,
signals arrive, and somebody may listen: then the stop begins when the listener has
heard of a shutdown. `Service.occur` lets one of them take one step. `Service.Stands` says
what the stop has left to do by how far modules and stores have come, and
`Service.Serves` is kept by each step. So whatever the order of the steps, the lifecycle
only moves forward, in step with the trigger, and what is stopped is down for good
(`lifecycle_forward`).
-/
import Replica.Proofs.Coordinator.Closing
import Replica.Proofs.Coordinator.Forward

namespace Replica

/-- Lets the first module in one state go on to the next. -/
def ModuleState.moveOn (source next : ModuleState) : List ModuleState → List ModuleState
  | [] => []
  | state :: rest => if state = source then next :: rest else state :: moveOn source next rest

namespace StopMove

/-- The moves that close the stores and end the stop. -/
def closing : List StopMove := [closeQueue, closeHistory, closeState, release, finish]

/-- What a move does to the modules: it asks the next one to stop, or has waited for it. -/
def onModules : StopMove → List ModuleState → List ModuleState
  | askModule, modules => ModuleState.moveOn .started .stopping modules
  | awaitModule, modules => ModuleState.moveOn .stopping .stopped modules
  | _, modules => modules

/-- What a move does to the stores. -/
def onStores : StopMove → FileStores → FileStores
  | closeQueue, stores => MessageStores.closeQueue stores
  | closeHistory, stores => MessageStores.closeHistory stores
  | closeState, stores => MessageStores.closeState stores
  | release, stores => MessageStores.release stores
  | _, stores => stores

theorem stores_run {π : Type} (move : StopMove) (c : Coordinator (Faulty FileStores) π) :
    (move.run c).stores.stores = move.onStores c.stores.stores := by
  cases move <;> rfl

theorem of_stopStep {π : Type} {s s' : System (Faulty FileStores) π} (h : System.StopStep s s') :
    ∃ move, s.stop = move :: s'.stop ∧
      s'.coordinator.stores.stores = move.onStores s.coordinator.stores.stores := by
  cases h with
  | acquire hstop | unlock hstop => exact ⟨_, hstop, rfl⟩
  | @move move rest hstop => exact ⟨move, hstop, stores_run move s.coordinator⟩

theorem closing_cases {move : StopMove} {rest : List StopMove} (h : (move :: rest) <:+ closing) :
    (move = closeQueue ∧ rest = [closeHistory, closeState, release, finish]) ∨
      (move = closeHistory ∧ rest = [closeState, release, finish]) ∨
      (move = closeState ∧ rest = [release, finish]) ∨
      (move = release ∧ rest = [finish]) ∨ (move = finish ∧ rest = []) := by
  simpa [closing, List.suffix_cons_iff] using h

end StopMove

namespace Waiter

/-- A waiter that has returned a reason found it in the latch, or had it before. -/
theorem of_step_returned {trigger : Trigger} {waiter : Waiter} {reason : ShutdownReason}
    (h : waiter.step trigger = .returned reason) :
    trigger.reason = some reason ∨ waiter = .returned reason := by
  cases waiter with
  | outside => cases h
  | ticketed ticket =>
    simp only [step] at h
    split at h
    · rename_i hreason
      cases h
      exact .inl hreason
    · cases h
  | looked ticket | parked ticket =>
    simp only [step] at h
    split at h <;> cases h
  | returned reason' => exact .inr h

end Waiter

theorem Coordinator.stores_advance {σ π : Type} (c : Coordinator σ π) (source next : Lifecycle) :
    (c.advance source next).stores = c.stores := by
  unfold advance
  split <;> rfl

/-- A coordinator's system with its modules and with who listens. -/
structure Service (σ π : Type) where
  system : System σ π
  modules : List ModuleState
  /-- Whether the start is over. -/
  isUp : Bool
  /-- Who listens; none if the stop is asked for directly. -/
  listener : Option Waiter

namespace Service

/-- A step of somebody. -/
inductive Event
  /-- The next module starts. -/
  | startModule
  /-- The start is over. -/
  | ready
  | call (index : Nat)
  | stop
  | signal (signal : ShutdownSignal)
  | listen
  deriving DecidableEq, Repr

/-- What happens to the system in a step. -/
def Event.occurrence? : Event → Option Occurrence
  | startModule | listen => none
  | ready => some .started
  | call index => some (.move (.task index))
  | stop => some (.move .stop)
  | signal name => some (.signal name)

section

variable {σ π : Type}

/-- Modules nobody has started, calls nobody has begun, and perhaps a listener. -/
def start (c : Coordinator σ π) (calls : List Task) (modules : Nat) (listens : Bool) :
    Service σ π where
  system := .initial c calls modules
  modules := List.replicate modules .created
  isUp := false
  listener := if listens then some .outside else none

/-- A coordinator that has just been made over open stores whose calls may fail. -/
def opened (stores : FileStores) (faults : Faults) (policy : π) (calls : List Task) (modules : Nat)
    (listens : Bool) : Service (Faulty FileStores) π :=
  start { stores := ⟨stores, faults⟩, policy } calls modules listens

/-- The stores of a service, without the faults to come. -/
def stores (s : Service (Faulty FileStores) π) : FileStores := s.system.coordinator.stores.stores

def state (s : Service σ π) : Lifecycle := s.system.coordinator.state

/-- The reason that was accepted, if one was. -/
def reason (s : Service σ π) : Option ShutdownReason := s.system.coordinator.trigger.reason

/-- Whether the stop may begin: nobody listens, or the listener has heard of a shutdown. -/
def hasHeard (s : Service σ π) : Bool := s.listener.all (·.reason?.isSome)

/-- What the listener gets when the stop is over. -/
def listened (s : Service σ π) : Option (Except CoordinatorError Unit) :=
  if s.system.stop = [] then (s.listener.bind Waiter.reason?).map ShutdownReason.result else none

variable [MessageStores σ] [Policy π]

/-- One step; none if nobody can take it. -/
def occur (s : Service σ π) : Event → Option (Service σ π)
  | .startModule =>
    if s.isUp = false ∧ .created ∈ s.modules then
      some { s with modules := ModuleState.moveOn .created .started s.modules }
    else none
  | .ready =>
    if s.isUp = false ∧ .created ∉ s.modules then
      (s.system.occur .started).map fun system => { s with system, isUp := true }
    else none
  | .call index => (s.system.occur (.move (.task index))).map fun system => { s with system }
  | .stop =>
    if s.isUp = true ∧ s.hasHeard = true then
      (s.system.occur (.move .stop)).map fun system =>
        { s with system, modules := (s.system.stop.head?.elim id StopMove.onModules) s.modules }
    else none
  | .signal signal => (s.system.occur (.signal signal)).map fun system => { s with system }
  | .listen =>
    if s.isUp = true then
      some { s with listener := s.listener.map (Waiter.step s.system.coordinator.trigger) }
    else none

/-- Where steps lead; none if one of them cannot be taken. -/
def follow : List Event → Service σ π → Option (Service σ π)
  | [], s => some s
  | event :: events, s => (s.occur event).bind (follow events)

/-- The reasons that are accepted along steps. -/
def accepted : List Event → Service σ π → List ShutdownReason
  | [], _ => []
  | event :: events, s =>
    event.occurrence?.elim [] s.system.accepts ++ (s.occur event).elim [] (accepted events)

variable {s s' : Service σ π}

theorem follow_keeps {P : Service σ π → Prop}
    (hstep : ∀ {s s' event}, P s → s.occur event = some s' → P s') {events : List Event} (h : P s)
    (hfollow : s.follow events = some s') : P s' := by
  induction events generalizing s with
  | nil =>
    cases hfollow
    exact h
  | cons event events ih =>
    obtain ⟨next, hnext, hfollow⟩ := Option.bind_eq_some_iff.1 hfollow
    exact ih (hstep h hnext) hfollow

theorem system_occur {event : Event} (h : s.occur event = some s') :
    (event.occurrence? = none ∧ s'.system = s.system) ∨
      ∃ occurrence, event.occurrence? = some occurrence ∧
        s.system.occur occurrence = some s'.system := by
  cases event with
  | startModule =>
    refine .inl ⟨rfl, ?_⟩
    simp only [occur] at h
    split at h <;> cases h
    rfl
  | listen =>
    refine .inl ⟨rfl, ?_⟩
    simp only [occur] at h
    split at h <;> cases h
    rfl
  | call index | signal name =>
    simp only [occur] at h
    obtain ⟨system, hsystem, rfl⟩ := Option.map_eq_some_iff.1 h
    exact .inr ⟨_, rfl, hsystem⟩
  | ready | stop =>
    simp only [occur] at h
    split at h
    · obtain ⟨system, hsystem, rfl⟩ := Option.map_eq_some_iff.1 h
      exact .inr ⟨_, rfl, hsystem⟩
    · cases h

theorem reason_occur {event : Event} (h : s.occur event = some s') :
    s'.reason.toList = s.reason.toList ++ event.occurrence?.elim [] s.system.accepts := by
  rcases system_occur h with ⟨hnone, hsame⟩ | ⟨occurrence, hsome, hsystem⟩
  · rw [reason, hsame, hnone]
    exact (List.append_nil _).symm
  · rw [hsome]
    exact System.reason_occur hsystem

/-- **The reasons accepted along a course** are those the trigger keeps. -/
theorem reason_follow {events : List Event} (h : s.follow events = some s') :
    s'.reason.toList = s.reason.toList ++ s.accepted events := by
  induction events generalizing s with
  | nil =>
    cases h
    exact (List.append_nil _).symm
  | cons event events ih =>
    obtain ⟨next, hnext, h⟩ := Option.bind_eq_some_iff.1 h
    rw [ih h, reason_occur hnext, accepted, hnext, List.append_assoc]
    rfl

end

end Service

/-! ## Modules one after another -/

theorem ModuleState.moveOn_replicate {source next : ModuleState} (hne : next ≠ source) (j k : Nat) :
    moveOn source next (List.replicate j next ++ List.replicate (k + 1) source) =
      List.replicate (j + 1) next ++ List.replicate k source := by
  induction j with
  | zero => simp [List.replicate_succ, moveOn]
  | succ j ih =>
    rw [List.replicate_succ, List.cons_append, moveOn, if_neg hne, ih]
    rfl

namespace Service

/-! ## Where the stop stands -/

/-- **What the stop has left to do**, by how far the modules and the stores have come: the lock of the
directory is held until it is given back, behind the stores. -/
inductive Stands (directory : DataDirectory) (modules : Nat) :
    (isUp : Bool) → List StopMove → List ModuleState → FileStores → Prop
  | starting {j k : Nat} {stores : FileStores} (hall : j + k = modules)
      (hheld : stores.directory = some directory) :
      Stands directory modules false (StopMove.script modules)
        (List.replicate j .started ++ List.replicate k .created) stores
  | opening {rest : List StopMove} {stores : FileStores}
      (hrest : rest = StopMove.script modules ∨
        rest = .enter :: .unlock :: StopMove.teardown modules ∨
        rest = .unlock :: StopMove.teardown modules ∨ rest = StopMove.teardown modules)
      (hheld : stores.directory = some directory) :
      Stands directory modules true rest (List.replicate modules .started) stores
  | asking {j k : Nat} {stores : FileStores} (hall : j + k = modules)
      (hheld : stores.directory = some directory) :
      Stands directory modules true
        (List.replicate k .askModule ++ (List.replicate modules .awaitModule ++ StopMove.closing))
        (List.replicate j .stopping ++ List.replicate k .started) stores
  | awaiting {j k : Nat} {stores : FileStores} (hall : j + k = modules)
      (hheld : stores.directory = some directory) :
      Stands directory modules true (List.replicate k .awaitModule ++ StopMove.closing)
        (List.replicate j .stopped ++ List.replicate k .stopping) stores
  | closing {rest : List StopMove} {stores : FileStores} (hrest : rest <:+ StopMove.closing)
      (hqueue : .closeQueue ∉ rest → stores.queue.isClosed = true)
      (hhistory : .closeHistory ∉ rest → stores.history.isClosed = true)
      (hstate : .closeState ∉ rest → stores.state.isClosed = true)
      (hheld : .release ∈ rest → stores.directory = some directory)
      (hreleased : .release ∉ rest →
        stores.directory = none ∧ directory.lock ∉ stores.disk.locked) :
      Stands directory modules true rest (List.replicate modules .stopped) stores

variable {directory : DataDirectory} {modules : Nat} {isUp : Bool} {rest : List StopMove}
  {states : List ModuleState} {stores stores' : FileStores}

theorem Stands.called (h : Stands directory modules isUp rest states stores)
    (hleaves : stores.LeavesClosed stores') :
    Stands directory modules isUp rest states stores' := by
  have hsame := hleaves.directory
  cases h with
  | starting hall hheld => exact .starting hall (hsame.trans hheld)
  | opening hrest hheld => exact .opening hrest (hsame.trans hheld)
  | asking hall hheld => exact .asking hall (hsame.trans hheld)
  | awaiting hall hheld => exact .awaiting hall (hsame.trans hheld)
  | closing hrest hqueue hhistory hstate hheld hreleased =>
    refine .closing hrest (fun h => hleaves.queue (hqueue h)) (fun h => hleaves.history (hhistory h))
      (fun h => hleaves.state (hstate h)) (fun h => hsame.trans (hheld h)) fun h => ?_
    -- the lock is given back behind the stores, so all of them are closed
    have hlast : rest = [.finish] ∨ rest = [] := by
      have hcases := hrest
      simp only [StopMove.closing, List.suffix_cons_iff, List.suffix_nil] at hcases
      rcases hcases with rfl | rfl | rfl | rfl | rfl | rfl
      · simp at h
      · simp at h
      · simp at h
      · simp at h
      · exact .inl rfl
      · exact .inr rfl
    have hclosed : stores' = stores := by
      rcases hlast with rfl | rfl <;>
        exact hleaves.closed (hqueue (by simp)) (hhistory (by simp)) (hstate (by simp))
    rw [hclosed]
    exact hreleased h

theorem stands_next_closing {move : StopMove} (hrest : (move :: rest) <:+ StopMove.closing)
    (hqueue : .closeQueue ∉ move :: rest → stores.queue.isClosed = true)
    (hhistory : .closeHistory ∉ move :: rest → stores.history.isClosed = true)
    (hstate : .closeState ∉ move :: rest → stores.state.isClosed = true)
    (hheld : .release ∈ move :: rest → stores.directory = some directory)
    (hreleased : .release ∉ move :: rest →
      stores.directory = none ∧ directory.lock ∉ stores.disk.locked) :
    Stands directory modules true rest (move.onModules (List.replicate modules .stopped))
      (move.onStores stores) := by
  have hrest' : rest <:+ StopMove.closing := (List.suffix_cons move rest).trans hrest
  rcases StopMove.closing_cases hrest with
    ⟨rfl, rfl⟩ | ⟨rfl, rfl⟩ | ⟨rfl, rfl⟩ | ⟨rfl, rfl⟩ | ⟨rfl, rfl⟩
  · rw [StopMove.onStores, FileStores.closeQueue_eq]
    exact .closing hrest' (fun _ => Queue.isClosed_close ..) (fun h => absurd (by simp) h)
      (fun h => absurd (by simp) h) (fun _ => hheld (by simp)) (fun h => absurd (by simp) h)
  · rw [StopMove.onStores, FileStores.closeHistory_eq]
    exact .closing hrest' (fun _ => hqueue (by simp)) (fun _ => History.isClosed_close ..)
      (fun h => absurd (by simp) h) (fun _ => hheld (by simp)) (fun h => absurd (by simp) h)
  · exact .closing hrest' (fun _ => hqueue (by simp)) (fun _ => hhistory (by simp)) (fun _ => rfl)
      (fun _ => hheld (by simp)) (fun h => absurd (by simp) h)
  · obtain ⟨hstores, hfree⟩ := FileStores.release_eq (hheld (by simp))
    rw [StopMove.onStores, hstores]
    exact .closing hrest' (fun _ => hqueue (by simp)) (fun _ => hhistory (by simp))
      (fun _ => hstate (by simp)) (fun h => absurd h (by simp)) (fun _ => ⟨rfl, hfree⟩)
  · exact .closing hrest' (fun _ => hqueue (by simp)) (fun _ => hhistory (by simp))
      (fun _ => hstate (by simp)) (fun h => absurd h (by simp)) (fun _ => hreleased (by simp))

theorem stands_next_awaiting {move : StopMove} {j k : Nat} (hall : j + k = modules)
    (hheld : stores.directory = some directory)
    (hrest : move :: rest = List.replicate k .awaitModule ++ StopMove.closing) :
    Stands directory modules true rest
      (move.onModules (List.replicate j .stopped ++ List.replicate k .stopping))
      (move.onStores stores) := by
  cases k with
  | zero =>
    obtain rfl : j = modules := hall
    rw [List.replicate_zero, List.nil_append] at hrest
    rw [List.replicate_zero, List.append_nil]
    refine stands_next_closing (hrest ▸ List.suffix_rfl) ?_ ?_ ?_ (fun _ => hheld) ?_ <;>
      exact fun h => absurd (by simp [hrest, StopMove.closing]) h
  | succ k =>
    obtain ⟨rfl, rfl⟩ := List.cons.inj hrest
    show Stands directory modules true _ (ModuleState.moveOn .stopping .stopped _) stores
    rw [ModuleState.moveOn_replicate (by decide)]
    exact .awaiting (by omega) hheld

theorem stands_next_asking {move : StopMove} {j k : Nat} (hall : j + k = modules)
    (hheld : stores.directory = some directory)
    (hrest : move :: rest = List.replicate k .askModule ++
      (List.replicate modules .awaitModule ++ StopMove.closing)) :
    Stands directory modules true rest
      (move.onModules (List.replicate j .stopping ++ List.replicate k .started))
      (move.onStores stores) := by
  cases k with
  | zero =>
    obtain rfl : j = modules := hall
    have hnext := stands_next_awaiting (Nat.zero_add j) hheld hrest
    rw [List.replicate_zero, List.nil_append] at hnext
    rwa [List.replicate_zero, List.append_nil]
  | succ k =>
    obtain ⟨rfl, rfl⟩ := List.cons.inj hrest
    show Stands directory modules true _ (ModuleState.moveOn .started .stopping _) stores
    rw [ModuleState.moveOn_replicate (by decide)]
    exact .asking (by omega) hheld

/-- **A move of the stop** leaves one move less to do. -/
theorem Stands.next {move : StopMove}
    (h : Stands directory modules true (move :: rest) states stores) :
    Stands directory modules true rest (move.onModules states) (move.onStores stores) := by
  generalize hleft : move :: rest = left at h
  cases h with
  | asking hall hheld => exact stands_next_asking hall hheld hleft
  | awaiting hall hheld => exact stands_next_awaiting hall hheld hleft
  | closing hrest hqueue hhistory hstate hheld hreleased =>
    subst hleft
    exact stands_next_closing hrest hqueue hhistory hstate hheld hreleased
  | opening hrest hheld =>
    subst hleft
    rcases hrest with hrest | hrest | hrest | hrest <;> obtain ⟨rfl, rfl⟩ := List.cons.inj hrest
    · exact .opening (.inr (.inl rfl)) hheld
    · exact .opening (.inr (.inr (.inl rfl))) hheld
    · exact .opening (.inr (.inr (.inr rfl))) hheld
    · have hasking : Stands directory modules true _ _ stores :=
        .asking (Nat.zero_add modules) hheld
      rw [List.replicate_zero, List.nil_append] at hasking
      rw [List.append_assoc]
      exact hasking

theorem Stands.start (h : Stands directory modules false rest states stores)
    (hleft : .created ∈ states) :
    Stands directory modules false rest (ModuleState.moveOn .created .started states) stores := by
  cases h with
  | @starting j k _ hall hheld =>
    cases k with
    | zero => simp [List.mem_replicate] at hleft
    | succ k =>
      rw [ModuleState.moveOn_replicate (by decide)]
      exact .starting (by omega) hheld

theorem Stands.ready (h : Stands directory modules false rest states stores)
    (hall : .created ∉ states) : Stands directory modules true rest states stores := by
  cases h with
  | @starting j k _ hmodules hheld =>
    cases k with
    | zero =>
      obtain rfl : j = modules := hmodules
      rw [List.replicate_zero, List.append_nil]
      exact .opening (.inl rfl) hheld
    | succ k => simp [List.mem_replicate] at hall

/-- **When the stop is over** all modules have stopped, the stores are closed and the lock is free. -/
theorem Stands.over (h : Stands directory modules isUp [] states stores) :
    states = List.replicate modules .stopped ∧ stores.queue.isClosed = true ∧
      stores.history.isClosed = true ∧ stores.state.isClosed = true ∧ stores.directory = none ∧
      directory.lock ∉ stores.disk.locked := by
  generalize hleft : [] = left at h
  cases h with
  | starting => cases hleft
  | opening hrest =>
    subst hleft
    rcases hrest with hrest | hrest | hrest | hrest <;> cases hrest
  | asking => simp [StopMove.closing] at hleft
  | awaiting => simp [StopMove.closing] at hleft
  | closing _ hqueue hhistory hstate _ hreleased =>
    subst hleft
    exact ⟨rfl, hqueue (by simp), hhistory (by simp), hstate (by simp), hreleased (by simp)⟩

/-! ## The invariant -/

section

variable {π : Type} [Policy π] {s s' : Service (Faulty FileStores) π}

/-- **What holds of a service at any time**: the state keeps step with the trigger, the stop stands
where modules and stores say, a listener that has returned has the accepted reason, and no stop
begins before it has. -/
structure Serves (directory : DataDirectory) (modules : Nat) (s : Service (Faulty FileStores) π) :
    Prop where
  forward : s.system.Forward modules
  stands : Stands directory modules s.isUp s.system.stop s.modules s.stores
  heard {reason : ShutdownReason} (h : s.listener = some (.returned reason)) :
    s.reason = some reason
  begun : s.system.stop = StopMove.script modules ∨ s.hasHeard = true

omit [Policy π] in
theorem serves_opened {stores : FileStores} (hheld : stores.directory = some directory)
    (faults : Faults) (policy : π) {calls : List Task} (hnew : ∀ task ∈ calls, task.isNew = true)
    (modules : Nat) (listens : Bool) :
    Serves directory modules (opened stores faults policy calls modules listens) where
  forward := System.forward_initial rfl rfl hnew modules
  stands := .starting (Nat.zero_add modules) hheld
  heard h := by cases listens <;> cases h
  begun := .inl rfl

omit [Policy π] in
theorem hasHeard_step {trigger : Trigger} (h : s.hasHeard = true) :
    s.listener.all ((·.reason?.isSome) ∘ Waiter.step trigger) = true := by
  rw [hasHeard] at h
  cases hlistener : s.listener with
  | none => rfl
  | some waiter =>
    rw [hlistener] at h
    cases waiter with
    | returned reason => rfl
    | _ => cases h

theorem heard_of_occur {event : Occurrence} {system : System (Faulty FileStores) π}
    (h : Serves directory modules s) (hsystem : s.system.occur event = some system)
    {reason : ShutdownReason} (hlistener : s.listener = some (.returned reason)) :
    system.coordinator.trigger.reason = some reason :=
  System.reason_occur_of_some hsystem (h.heard hlistener)

theorem serves_of_called {event : Occurrence} {system : System (Faulty FileStores) π}
    (h : Serves directory modules s) (hsystem : s.system.occur event = some system)
    (hstop : system.stop = s.system.stop)
    (hcalled : MessageStores.Called s.system.coordinator.stores system.coordinator.stores) :
    Serves directory modules { s with system } where
  forward := h.forward.occur hsystem
  stands := by
    rw [hstop]
    exact h.stands.called (FileStores.leavesClosed_of_called (Faulty.called hcalled))
  heard := heard_of_occur h hsystem
  begun := by
    rw [hstop]
    exact h.begun

/-- **One step** keeps the invariant. -/
theorem Serves.occur {event : Event} (h : Serves directory modules s)
    (hstep : s.occur event = some s') : Serves directory modules s' := by
  cases event with
  | startModule =>
    simp only [Service.occur] at hstep
    split at hstep
    · rename_i hstart
      cases hstep
      refine ⟨h.forward, ?_, h.heard, h.begun⟩
      have hstands := h.stands
      rw [hstart.1] at hstands ⊢
      exact hstands.start hstart.2
    · cases hstep
  | ready =>
    simp only [Service.occur] at hstep
    split at hstep
    · rename_i hready
      obtain ⟨system, hsystem, rfl⟩ := Option.map_eq_some_iff.1 hstep
      have hstands := h.stands
      rw [hready.1] at hstands
      have hforward := h.forward.occur hsystem
      have hheard {reason : ShutdownReason} (hlistener : s.listener = some (.returned reason)) :
          system.coordinator.trigger.reason = some reason := heard_of_occur h hsystem hlistener
      cases hsystem
      refine ⟨hforward, ?_, hheard, h.begun⟩
      show Stands directory modules true s.system.stop s.modules
        (s.system.coordinator.advance .starting .running).stores.stores
      rw [Coordinator.stores_advance]
      exact hstands.ready hready.2
    · cases hstep
  | call index =>
    simp only [Service.occur] at hstep
    obtain ⟨system, hsystem, rfl⟩ := Option.map_eq_some_iff.1 hstep
    have htask := System.taskStep_of_stepTask hsystem
    exact serves_of_called h hsystem (System.stop_taskStep htask) (System.called_taskStep htask)
  | signal name =>
    simp only [Service.occur] at hstep
    obtain ⟨system, hsystem, rfl⟩ := Option.map_eq_some_iff.1 hstep
    have hsame := hsystem
    cases hsame
    exact serves_of_called h hsystem rfl .nothing
  | listen =>
    simp only [Service.occur] at hstep
    split at hstep
    · cases hstep
      refine ⟨h.forward, h.stands, fun {reason} hlistener => ?_, h.begun.imp id fun hheard => ?_⟩
      · obtain ⟨waiter, hwaiter, hreturned⟩ := Option.map_eq_some_iff.1 hlistener
        rcases Waiter.of_step_returned hreturned with hreason | rfl
        · exact hreason
        · exact h.heard hwaiter
      · rw [hasHeard, Option.all_map]
        exact hasHeard_step hheard
    · cases hstep
  | stop =>
    simp only [Service.occur] at hstep
    split at hstep
    · rename_i hready
      obtain ⟨system, hsystem, rfl⟩ := Option.map_eq_some_iff.1 hstep
      obtain ⟨move, hstop, hstores⟩ := StopMove.of_stopStep (System.stopStep_of_stepStop hsystem)
      refine ⟨h.forward.occur hsystem, ?_, heard_of_occur h hsystem, .inr hready.2⟩
      have hstands := h.stands
      rw [hready.1, hstop] at hstands
      show Stands directory modules s.isUp system.stop
        (s.system.stop.head?.elim id StopMove.onModules s.modules) system.coordinator.stores.stores
      rw [hready.1, hstop, hstores]
      exact hstands.next
    · cases hstep

/-! ## No way back -/

theorem rank_step {event : Event} (h : Serves directory modules s)
    (hstep : s.occur event = some s') : s.state.rank ≤ s'.state.rank := by
  rcases system_occur hstep with ⟨-, hsame⟩ | ⟨occurrence, -, hsystem⟩
  · exact Nat.le_of_eq (by rw [state, state, hsame])
  · exact System.rank_occur h.forward hsystem

theorem mayRun_step {event : Event} (h : s.state.mayRun = false)
    (hstep : s.occur event = some s') : s'.state.mayRun = false := by
  rcases system_occur hstep with ⟨-, hsame⟩ | ⟨occurrence, -, hsystem⟩
  · rw [state, hsame]
    exact h
  · exact System.mayRun_occur h hsystem

theorem starting_of_step {event : Event} (hstep : s.occur event = some s')
    (hrunning : s'.state = .running) (hbefore : s.state ≠ .running) :
    event = .ready ∧ s.state = .starting := by
  rcases system_occur hstep with ⟨-, hsame⟩ | ⟨occurrence, hevent, hsystem⟩
  · rw [state, hsame] at hrunning
    exact absurd hrunning hbefore
  · obtain ⟨rfl, hstarting⟩ := System.starting_of_running hsystem hrunning hbefore
    refine ⟨?_, hstarting⟩
    cases event with
    | ready => rfl
    | _ => cases hevent

omit [Policy π] in
theorem Serves.mayRun_of_noted (h : Serves directory modules s) {error : CoordinatorError}
    (hreason : s.reason = some (.fatal error))
    (hnoted : ∀ task ∈ s.system.tasks, task.isNoting = false) : s.state.mayRun = false := by
  rcases h.forward.heeds.noted hreason with ⟨index, task, htask, hnoting⟩ | hclosed
  · rw [hnoted task (List.mem_of_getElem? htask)] at hnoting
    cases hnoting
  · exact hclosed

omit [Policy π] in
/-- A request that has returned true was accepted and has been noted. -/
theorem Serves.noted_of_returned (h : Serves directory modules s) {error : CoordinatorError}
    (hreturned : .shutdown error (.returned true) ∈ s.system.tasks) :
    s.reason = some (.fatal error) ∧ s.state.mayRun = false := by
  obtain ⟨index, hindex⟩ := List.getElem?_of_mem hreturned
  exact ⟨h.forward.accepted hindex rfl, h.forward.noted hindex⟩

omit [Policy π] in
theorem Serves.listened_eq (h : Serves directory modules s)
    {result : Except CoordinatorError Unit} (hresult : s.listened = some result) :
    ∃ reason, s.reason = some reason ∧ result = reason.result := by
  rw [listened] at hresult
  split at hresult
  · obtain ⟨reason, hheard, rfl⟩ := Option.map_eq_some_iff.1 hresult
    obtain ⟨waiter, hwaiter, hreturned⟩ := Option.bind_eq_some_iff.1 hheard
    cases waiter with
    | returned reason' =>
      cases hreturned
      exact ⟨reason, h.heard hwaiter, rfl⟩
    | _ => cases hreturned
  · cases hresult

omit [Policy π] in
theorem Serves.listened_of_stopped (h : Serves directory modules s) (hstop : s.system.stop = [])
    (hlistens : s.listener.isSome = true) : s.listened.isSome = true := by
  have hheard : s.hasHeard = true := by
    rcases h.begun with hscript | hheard
    · rw [hstop] at hscript
      cases hscript
    · exact hheard
  obtain ⟨waiter, hwaiter⟩ := Option.isSome_iff_exists.1 hlistens
  rw [hasHeard, hwaiter] at hheard
  rw [listened, if_pos hstop, hwaiter, Option.isSome_map]
  exact hheard

end

/-- **The lifecycle only moves forward, and in step with the trigger.** A coordinator has been opened
over a data directory, and its start, calls through its handles, signals, a listener and one stop take
steps in any order; a request for a shutdown fires the trigger in one step and writes the lifecycle
state in another. Then no state is left for an earlier one; running is entered from starting only, and a
fatal shutdown only behind a fatal reason; an error that was accepted and noted keeps the coordinator
from running ever after; the reasons accepted are at most one, the one the trigger keeps; whoever listens
gets no error if that was a signal, and otherwise that error; and a coordinator that is stopped
has stopped every module, closed its stores and given the lock of its directory back. -/
theorem lifecycle_forward {π : Type} [Policy π] {config : Config} {fold : Fold}
    {disk disk' : FileSystem} {stores : FileStores}
    (hopen : FileStores.open config fold disk = .ok stores disk') (faults : Faults) (policy : π)
    {calls : List Task} (hnew : ∀ task ∈ calls, task.isNew = true) (modules : Nat) (listens : Bool)
    {before after : List Event} {s t : Service (Faulty FileStores) π}
    (hbefore : (opened stores faults policy calls modules listens).follow before = some s)
    (hafter : s.follow after = some t) :
    s.state.rank ≤ t.state.rank ∧
      (∀ event next, s.occur event = some next → next.state = .running → s.state ≠ .running →
        event = .ready ∧ s.state = .starting) ∧
      (s.state = .fatalShutdown → ∃ error, s.reason = some (.fatal error)) ∧
      (∀ error, s.reason = some (.fatal error) →
        (∀ task ∈ s.system.tasks, task.isNoting = false) → t.state.mayRun = false) ∧
      (∀ error, .shutdown error (.returned true) ∈ s.system.tasks →
        s.reason = some (.fatal error) ∧ t.state.mayRun = false) ∧
      (opened stores faults policy calls modules listens).accepted before = s.reason.toList ∧
      (∀ result, s.listened = some result →
        (result = .ok () ↔ ∃ signal, s.reason = some (.signal signal)) ∧
          ∀ error, result = .error error ↔ s.reason = some (.fatal error)) ∧
      (s.state = .stopped → (s.listener.isSome = true → s.listened.isSome = true) ∧
        s.modules = List.replicate modules .stopped ∧
        s.stores.queue.isClosed = true ∧ s.stores.history.isClosed = true ∧
        s.stores.state.isClosed = true ∧ s.stores.directory = none ∧
        ∃ directory, stores.directory = some directory ∧
          directory.lock ∉ s.stores.disk.locked) := by
  obtain ⟨directory, hheld⟩ := FileStores.directory_of_open hopen
  have hs : Serves directory modules s :=
    follow_keeps (P := Serves directory modules) (fun h hstep => h.occur hstep)
      (serves_opened hheld faults policy hnew modules listens) hbefore
  have hlater (hclosed : s.state.mayRun = false) : t.state.mayRun = false :=
    follow_keeps (P := fun s => s.state.mayRun = false) (fun h hstep => mayRun_step h hstep) hclosed
      hafter
  refine ⟨?_, fun event next hstep => starting_of_step hstep, hs.forward.fatal,
    fun error hreason hnoted => hlater (hs.mayRun_of_noted hreason hnoted), fun error hreturned => ?_,
    ?_, fun result hresult => ?_, fun hstopped => ?_⟩
  · exact (follow_keeps (P := fun t => Serves directory modules t ∧ s.state.rank ≤ t.state.rank)
      (fun h hstep => ⟨h.1.occur hstep, Nat.le_trans h.2 (rank_step h.1 hstep)⟩) ⟨hs, Nat.le_refl _⟩
      hafter).2
  · obtain ⟨hreason, hclosed⟩ := hs.noted_of_returned hreturned
    exact ⟨hreason, hlater hclosed⟩
  · exact (reason_follow hbefore).symm
  · obtain ⟨reason, hreason, rfl⟩ := hs.listened_eq hresult
    rw [hreason]
    cases reason <;> simp [ShutdownReason.result]
  · have hstop : s.system.stop = [] := hs.forward.ended hstopped
    have hstands := hs.stands
    rw [hstop] at hstands
    obtain ⟨hmodules, hqueue, hhistory, hstate, hreleased, hfree⟩ := hstands.over
    exact ⟨hs.listened_of_stopped hstop, hmodules, hqueue, hhistory, hstate, hreleased, directory,
      hheld, hfree⟩

/-! ## A request while the module starts -/

/-- A request fires the trigger while the module starts and notes it when messages are let in already.
A signal comes too late. The listener hears of the request and takes the coordinator down. -/
def requestWhileStarting : List Event :=
  [.startModule, .call 0, .ready, .call 0, .signal .terminate, .listen, .listen] ++
    List.replicate 11 .stop

/-- The service behind that, and behind another signal. -/
def takenDown : Option (FileStores × FileSystem × Service (Faulty FileStores) RecordingPolicy ×
    Service (Faulty FileStores) RecordingPolicy) :=
  match FileStores.open { dataDirectory := "/data" } .sum {} with
  | .error .. => none
  | .ok stores disk => do
    let s ← (opened stores .none ({} : RecordingPolicy) [.shutdown (.other "enough") .fire] 1
      true).follow requestWhileStarting
    let t ← s.follow [.signal .hangup]
    return (stores, disk, s, t)

theorem runs_of_takenDown {stores : FileStores} {disk : FileSystem}
    {s t : Service (Faulty FileStores) RecordingPolicy}
    (h : takenDown = some (stores, disk, s, t)) :
    FileStores.open { dataDirectory := "/data" } .sum {} = .ok stores disk ∧
      (opened stores .none ({} : RecordingPolicy) [.shutdown (.other "enough") .fire] 1 true).follow
        requestWhileStarting = some s ∧
      s.follow [.signal .hangup] = some t := by
  unfold takenDown at h
  split at h
  · cases h
  · rename_i hopen
    obtain ⟨s', hs, h⟩ := Option.bind_eq_some_iff.1 h
    obtain ⟨t', ht, h⟩ := Option.bind_eq_some_iff.1 h
    cases h
    exact ⟨hopen, hs, ht⟩

/-- Whether a service is down with this error accepted, noted and heard. -/
def isDownFor (error : CoordinatorError) (s : Service (Faulty FileStores) RecordingPolicy) : Bool :=
  match s.system.tasks with
  | [.shutdown noted (.returned true)] =>
    noted = error && s.state = .stopped && s.reason = some (.fatal error) && s.listener.isSome
  | _ => false

/-- The request is what the listener gets, and what keeps the coordinator from running. -/
theorem lifecycle_forward_requestWhileStarting :
    ∃ stores disk s t, takenDown = some (stores, disk, s, t) ∧
      s.listened = some (.error (.other "enough")) ∧ t.state.mayRun = false ∧
      s.modules = [.stopped] ∧ s.stores.queue.isClosed = true ∧ s.stores.directory = none := by
  have heval : takenDown.any (fun run => isDownFor (.other "enough") run.2.2.1) = true := by
    decide +kernel
  obtain ⟨⟨stores, disk, s, t⟩, hruns, hdown⟩ := (Option.any_eq_true ..).1 heval
  obtain ⟨hopen, hbefore, hafter⟩ := runs_of_takenDown hruns
  dsimp only at hdown
  unfold isDownFor at hdown
  split at hdown
  · rename_i noted htasks
    simp only [Bool.and_eq_true, decide_eq_true_eq] at hdown
    obtain ⟨⟨⟨rfl, hstopped⟩, hreason⟩, hlistens⟩ := hdown
    have hnew : ∀ task ∈ [Task.shutdown (.other "enough") .fire], task.isNew = true := by decide
    obtain ⟨-, -, -, -, hnoted, -, hlistened, hover⟩ :=
      lifecycle_forward hopen .none {} hnew 1 true hbefore hafter
    obtain ⟨hheard, hmodules, hqueue, -, -, hreleased, -⟩ := hover hstopped
    obtain ⟨result, hresult⟩ := Option.isSome_iff_exists.1 (hheard hlistens)
    have herror : result = .error (.other "enough") := ((hlistened result hresult).2 _).2 hreason
    refine ⟨stores, disk, s, t, hruns, ?_, (hnoted (.other "enough") ?_).2, hmodules, hqueue, hreleased⟩
    · rw [hresult, herror]
    · rw [htasks]
      exact List.mem_singleton_self _
  · cases hdown

end Service

end Replica
