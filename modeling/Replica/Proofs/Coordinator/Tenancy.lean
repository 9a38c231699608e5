/-
Tenants of a data directory.

Any number of tenants share one directory. A tenant takes the lock, opens its stores,
calls them, parts with them and gives the lock back; every one of these is a step of its
own, and between any two of them the other tenants may take theirs. An opening may fail,
and a tenant that starts may fail at any point for a reason of its own.

What a tenant has to do fits what it has (`Tenant.Orderly`): the lock comes before the
first store and goes behind the last. So each step is of one of four kinds
(`Tenant.Moves`), and at every moment there is one tenant at most, nobody has a store open
without the lock, and whoever comes meanwhile is refused and changes nothing
(`Premises.one_writer`).
-/
import Replica.Proofs.Coordinator.Closing
import Replica.Proofs.Coordinator.LockFile
import Mathlib.Logic.Function.Iterate

namespace Replica

open FileSystem DataDirectory

/-- The stores of a data directory. -/
inductive Room
  | queue
  | history
  | state
  deriving DecidableEq, Repr

/-- A store to be opened, what with, and the call that fails on its own while it is. -/
inductive Opening
  | queue (options : StoreOptions) (mishap : Option Replacement.Mishap)
  | history (options : StoreOptions)
  | state (fold : Fold) (mishap : Option Replacement.Mishap)

/-- How a store is parted with. -/
inductive Parting
  /-- It is made durable, and whoever still has it finds it closed. -/
  | close
  /-- Nobody has it any more. -/
  | drop
  deriving DecidableEq, Repr

/-- One thing a tenant has to do. -/
inductive Errand
  | lock (createIfMissing : Bool)
  | «open» (opening : Opening)
  | part (how : Parting) (room : Room)
  | release

/-- A call of the stores. -/
inductive StoreUse
  | fold (message : Message) (mishap : Option Replacement.Mishap)
  | enqueue (message : Message)
  | push (message : Message)
  | dequeue

/-- Somebody who may take the lock of the directory at a path and open the stores in it. -/
structure Tenant where
  path : String
  /-- The locked directory; none without the lock. -/
  directory : Option DataDirectory := none
  queue : Option (Queue OpenFile) := none
  history : Option (History OpenFile) := none
  state : Option StateStore := none
  /-- What is still to be done, the next thing first. -/
  agenda : List Errand := []

namespace Tenant

/-- Whether the tenant has the lock. -/
def hasLock (t : Tenant) : Bool := t.directory.isSome

/-- Whether a store has been opened and neither closed nor dropped. -/
def isOpen (t : Tenant) : Room → Bool
  | .queue => t.queue.any fun queue => !queue.isClosed
  | .history => t.history.any fun history => !history.isClosed
  | .state => t.state.any fun state => !state.isClosed

/-- Drops what has been opened, the last thing first, and the lock behind it. -/
def giveUp (t : Tenant) : Tenant :=
  { t with agenda := [.part .drop .state, .part .drop .history, .part .drop .queue, .release] }

/-- A store that opened is kept; if it did not open, the tenant gives up. -/
def settle {σ : Type} (t : Tenant) (put : σ → Tenant) :
    EStateM.Result StoreError FileSystem σ → Tenant × FileSystem
  | .ok store disk => (put store, disk)
  | .error _ disk => (t.giveUp, disk)

/-- Opens a store. -/
def openStore (t : Tenant) (disk : FileSystem) : Opening → Tenant × FileSystem
  | .queue options mishap => t.settle (fun queue => { t with queue := some queue })
      (Queue.openFileWith mishap (queuePath t.path) options disk)
  | .history options => t.settle (fun history => { t with history := some history })
      (History.openFile (historyPath t.path) options disk)
  | .state fold mishap => t.settle (fun state => { t with state := some state })
      (StateStore.openFileWith mishap (statePath t.path) fold disk)

/-- Calls a store, if the tenant has it. -/
def call {σ ε α : Type} (t : Tenant) (store? : Option σ) (put : σ → Tenant)
    (act : EStateM ε (σ × FileSystem) α) (disk : FileSystem) : Tenant × FileSystem :=
  match store? with
  | none => (t, disk)
  | some store =>
    let (store', disk') := (outcome act (store, disk)).2
    (put store', disk')

/-- Calls the queue. -/
def callQueue {α : Type} (t : Tenant) (act : Queue.Action OpenFile FileSystem α) :
    FileSystem → Tenant × FileSystem := t.call t.queue (fun queue => { t with queue := some queue }) act

/-- Calls the history. -/
def callHistory {α : Type} (t : Tenant) (act : History.Action OpenFile FileSystem α) :
    FileSystem → Tenant × FileSystem :=
  t.call t.history (fun history => { t with history := some history }) act

/-- Calls the state store. -/
def callState {α : Type} (t : Tenant) (act : StateStore.Action α) :
    FileSystem → Tenant × FileSystem := t.call t.state (fun state => { t with state := some state }) act

/-- Makes a call of the stores. -/
def use (t : Tenant) (disk : FileSystem) : StoreUse → Tenant × FileSystem
  | .fold message mishap => t.callState (StateStore.applyWith mishap message) disk
  | .enqueue message => t.callQueue (Queue.enqueue message) disk
  | .push message => t.callHistory (History.push message) disk
  | .dequeue => t.callQueue Queue.dequeue disk

/-- Parts with a store. -/
def partWith (t : Tenant) (disk : FileSystem) : Parting → Room → Tenant × FileSystem
  | .close, .queue => t.callQueue Queue.close disk
  | .close, .history => t.callHistory History.close disk
  | .close, .state => ({ t with state := t.state.map StateStore.close }, disk)
  | .drop, .queue => ({ t with queue := none }, disk)
  | .drop, .history => ({ t with history := none }, disk)
  | .drop, .state => ({ t with state := none }, disk)

/-- Does one thing. Without the lock there is nothing more to do. -/
def run (t : Tenant) (disk : FileSystem) : Errand → Tenant × FileSystem
  | .lock createIfMissing =>
    match DataDirectory.open t.path createIfMissing disk with
    | .ok directory disk' => ({ t with directory := some directory }, disk')
    | .error _ disk' => ({ t with agenda := [] }, disk')
  | .open opening => t.openStore disk opening
  | .part how room => t.partWith disk how room
  | .release =>
    match t.directory with
    | some directory => ({ t with directory := none }, directory.release disk)
    | none => (t, disk)

/-- Does the next thing. -/
def proceed (t : Tenant) (disk : FileSystem) : Tenant × FileSystem :=
  match t.agenda with
  | [] => (t, disk)
  | errand :: rest => run { t with agenda := rest } disk errand

/-- What a tenant does when its time has come. -/
inductive Act
  /-- Sets out to take the lock only. -/
  | visit (createIfMissing : Bool)
  /-- Sets out to start a coordinator. -/
  | start (config : Config) (fold : Fold) (compacting replacing : Option Replacement.Mishap)
  | proceed
  /-- Fails on the way in. -/
  | fail
  /-- Sets out to close the stores, one after the other, and to give the lock back. -/
  | stop
  /-- Drops everything. -/
  | leave
  | use (call : StoreUse)

/-- The stores a coordinator opens, in order. -/
def openings (config : Config) (fold : Fold) (compacting replacing : Option Replacement.Mishap) :
    List Opening :=
  [.queue config.stores compacting, .history config.stores, .state fold replacing]

/-- What is to be done to part with every store and the lock. -/
def partings (how : Parting) : List Errand :=
  [.part how .queue, .part how .history, .part how .state, .release]

/-- Sets out, if the tenant is not there and has nothing else to do. -/
def setOut (t : Tenant) (agenda : List Errand) : Tenant :=
  if t.directory.isNone && t.agenda.isEmpty then { path := t.path, agenda } else t

/-- Sets out to leave, if the tenant has nothing else to do. -/
def turnBack (t : Tenant) (how : Parting) : Tenant :=
  if t.agenda.isEmpty then { t with agenda := partings how } else t

/-- Fails, if the tenant is on its way in. -/
def fail (t : Tenant) : Tenant :=
  match t.agenda with
  | .lock _ :: _ => { t with agenda := [] }
  | .open _ :: _ => t.giveUp
  | _ => t

/-- Acts. -/
def act (t : Tenant) (disk : FileSystem) : Act → Tenant × FileSystem
  | .visit createIfMissing => (t.setOut [.lock createIfMissing], disk)
  | .start config fold compacting replacing =>
    (t.setOut (.lock config.createIfMissing ::
      (openings config fold compacting replacing).map .open), disk)
  | .proceed => t.proceed disk
  | .fail => (t.fail, disk)
  | .stop => (t.turnBack .close, disk)
  | .leave => (t.turnBack .drop, disk)
  | .use call => t.use disk call

variable {t t' : Tenant} {disk disk' : FileSystem} {here : Place}

/-! ## Opening without an interruption -/

theorem proceed_cons (path : String) (directory : Option DataDirectory)
    (queue : Option (Queue OpenFile)) (history : Option (History OpenFile))
    (state : Option StateStore) (errand : Errand) (rest : List Errand) (disk : FileSystem) :
    proceed ⟨path, directory, queue, history, state, errand :: rest⟩ disk =
      run ⟨path, directory, queue, history, state, rest⟩ disk errand := rfl

/-- Somebody with all stores open and nothing to do. -/
def ofStores (path : String) (stores : FileStores) : Tenant :=
  ⟨path, stores.directory, some stores.queue, some stores.history, some stores.state, []⟩

/-- **A start that nobody interrupts** is the opening of the stores of the directory: what comes of it
is what came of that, and a tenant that fails has given everything back. -/
theorem proceed_start (config : Config) (fold : Fold) (disk : FileSystem) :
    (fun s : Tenant × FileSystem => s.1.proceed s.2)^[8]
        (act { path := config.dataDirectory } disk (.start config fold none none)) =
      match FileStores.open config fold disk with
      | .ok stores disk' => (ofStores config.dataDirectory stores, disk')
      | .error _ disk' => ({ path := config.dataDirectory }, disk') := by
  rw [FileStores.open_eq]
  simp only [act, setOut, Option.isNone_none, List.isEmpty_nil, Bool.and_self, if_true,
    Function.iterate_succ_apply, Function.iterate_zero_apply, openings, List.map_cons, List.map_nil,
    proceed_cons, run]
  cases hlock : DataDirectory.open config.dataDirectory config.createIfMissing disk with
  | error e disk₁ => rfl
  | ok directory disk₁ =>
    have hpath := path_of_open hlock
    simp only [FileStores.openIn_eq, hpath, Queue.openFile, StateStore.openFile, proceed_cons, run,
      openStore]
    cases Queue.openFileWith none (queuePath config.dataDirectory) config.stores disk₁ with
    | error e disk₂ => rfl
    | ok queue disk₂ =>
      simp only [settle, proceed_cons, run, openStore]
      cases History.openFile (historyPath config.dataDirectory) config.stores disk₂ with
      | error e disk₃ => rfl
      | ok history disk₃ =>
        simp only [settle, proceed_cons, run, openStore]
        cases StateStore.openFileWith none (statePath config.dataDirectory) fold disk₃ with
        | error e disk₄ => rfl
        | ok state disk₄ => rfl

/-- **A stop that nobody interrupts** closes the stores and gives the lock back. -/
theorem proceed_stop (path : String) (stores : FileStores) :
    (fun s : Tenant × FileSystem => s.1.proceed s.2)^[4]
        (act (ofStores path stores) stores.disk .stop) =
      let stopped := MessageStores.release
        (MessageStores.closeState (MessageStores.closeHistory (MessageStores.closeQueue stores)))
      (ofStores path stopped, stopped.disk) := by
  obtain ⟨queue, history, state, directory, disk⟩ := stores
  simp only [FileStores.closeQueue_eq, FileStores.closeHistory_eq, act, turnBack, ofStores,
    List.isEmpty_nil, if_true, partings, Function.iterate_succ_apply, Function.iterate_zero_apply,
    proceed_cons, run, partWith, callQueue, callHistory, call, Option.map_some]
  cases directory <;> rfl

/-! ## What a tenant has -/

/-- **Nothing new**: the tenant goes by the same path and plan, has the lock if it had it, and has no
store open that was not. -/
structure Lessens (t t' : Tenant) : Prop where
  path : t'.path = t.path
  directory : t'.directory = t.directory
  agenda : t'.agenda = t.agenda
  isOpen {room : Room} (h : t'.isOpen room = true) : t.isOpen room = true
  statePath {state : StateStore} (h : t'.state = some state) :
    ∃ before, t.state = some before ∧ state.path = before.path

theorem Lessens.refl (t : Tenant) : t.Lessens t := ⟨rfl, rfl, rfl, id, fun h => ⟨_, h, rfl⟩⟩

theorem lessens_call {σ ε α : Type} {store? : Option σ} {put : σ → Tenant}
    {act : EStateM ε (σ × FileSystem) α}
    (h : ∀ store, store? = some store → t.Lessens (put (outcome act (store, disk)).2.1)) :
    t.Lessens (t.call store? put act disk).1 := by
  unfold call
  cases store? with
  | none => exact .refl t
  | some store => exact h store rfl

theorem lessens_queue {queue queue' : Queue OpenFile} (hqueue : t.queue = some queue)
    (h : queue.isClosed = true → queue'.isClosed = true) :
    t.Lessens { t with queue := some queue' } := by
  refine ⟨rfl, rfl, rfl, fun {room} hopen => ?_, fun hstate => ⟨_, hstate, rfl⟩⟩
  cases room with
  | queue =>
    simp only [isOpen, hqueue, Option.any_some, Bool.not_eq_true', ← Bool.not_eq_true] at hopen ⊢
    exact fun hclosed => hopen (h hclosed)
  | history | state => exact hopen

theorem lessens_history {history history' : History OpenFile} (hhistory : t.history = some history)
    (h : history.isClosed = true → history'.isClosed = true) :
    t.Lessens { t with history := some history' } := by
  refine ⟨rfl, rfl, rfl, fun {room} hopen => ?_, fun hstate => ⟨_, hstate, rfl⟩⟩
  cases room with
  | history =>
    simp only [isOpen, hhistory, Option.any_some, Bool.not_eq_true', ← Bool.not_eq_true] at hopen ⊢
    exact fun hclosed => hopen (h hclosed)
  | queue | state => exact hopen

theorem lessens_state {state state' : StateStore} (hstate : t.state = some state)
    (hpath : state'.path = state.path) (h : state.isClosed = true → state'.isClosed = true) :
    t.Lessens { t with state := some state' } := by
  refine ⟨rfl, rfl, rfl, fun {room} hopen => ?_, fun hsome => ?_⟩
  · cases room with
    | state =>
      simp only [isOpen, hstate, Option.any_some, Bool.not_eq_true', ← Bool.not_eq_true] at hopen ⊢
      exact fun hclosed => hopen (h hclosed)
    | queue | history => exact hopen
  · cases hsome
    exact ⟨state, hstate, hpath⟩

theorem applyWith_state (mishap : Option Replacement.Mishap) (message : Message)
    (state : StateStore) (disk : FileSystem) :
    let state' := (outcome (StateStore.applyWith mishap message) (state, disk)).2.1
    state'.path = state.path ∧ state'.isClosed = state.isClosed := by
  simp only [outcome, StateStore.applyWith]
  by_cases hclosed : state.isClosed = true
  · rw [if_pos hclosed]
    exact ⟨rfl, rfl⟩
  · rw [if_neg hclosed]
    cases FileSystem.replaceWith mishap state.path (state.next message).encode disk <;>
      exact ⟨rfl, rfl⟩

/-- **A call** opens nothing. -/
theorem lessens_use (t : Tenant) (disk : FileSystem) (call : StoreUse) :
    t.Lessens (t.use disk call).1 := by
  cases call with
  | fold message mishap =>
    refine lessens_call fun state hstate => ?_
    obtain ⟨hpath, hclosed⟩ := applyWith_state mishap message state disk
    exact lessens_state hstate hpath fun h => hclosed.trans h
  | enqueue message =>
    refine lessens_call fun queue hqueue => lessens_queue hqueue fun h => ?_
    rw [outcome, Queue.enqueue_of_isClosed h message disk]
    exact h
  | push message =>
    refine lessens_call fun history hhistory => lessens_history hhistory fun h => ?_
    rw [outcome, History.push_of_isClosed h message disk]
    exact h
  | dequeue =>
    refine lessens_call fun queue hqueue => lessens_queue hqueue fun h => ?_
    rw [outcome, Queue.dequeue_of_isClosed h disk]
    exact h

theorem lessens_drop (t : Tenant) (disk : FileSystem) (room : Room) :
    t.Lessens (t.partWith disk .drop room).1 ∧ (t.partWith disk .drop room).1.isOpen room = false := by
  refine ⟨⟨?_, ?_, ?_, fun {other} hopen => ?_, fun hstate => ?_⟩, ?_⟩
  · cases room <;> rfl
  · cases room <;> rfl
  · cases room <;> rfl
  · cases room <;> cases other <;> first | exact hopen | cases hopen
  · cases room with
    | queue | history => exact ⟨_, hstate, rfl⟩
    | state => cases hstate
  · cases room <;> rfl

/-- **A store that was parted with** is not open, and no other has been opened. -/
theorem lessens_partWith (t : Tenant) (disk : FileSystem) (how : Parting) (room : Room) :
    t.Lessens (t.partWith disk how room).1 ∧ (t.partWith disk how room).1.isOpen room = false := by
  cases how with
  | close =>
    cases room with
    | queue =>
      refine ⟨lessens_call fun queue hqueue => lessens_queue hqueue fun _ =>
        Queue.isClosed_close queue disk, ?_⟩
      simp only [partWith, callQueue, call]
      cases hqueue : t.queue with
      | none => simp only [isOpen, hqueue, Option.any_none]
      | some queue => simp only [isOpen, Option.any_some, Queue.isClosed_close, Bool.not_true]
    | history =>
      refine ⟨lessens_call fun history hhistory => lessens_history hhistory fun _ =>
        History.isClosed_close history disk, ?_⟩
      simp only [partWith, callHistory, call]
      cases hhistory : t.history with
      | none => simp only [isOpen, hhistory, Option.any_none]
      | some history => simp only [isOpen, Option.any_some, History.isClosed_close, Bool.not_true]
    | state =>
      simp only [partWith]
      cases hstate : t.state with
      | none =>
        have hsame : { t with state := none } = t := by rw [← hstate]
        simp only [Option.map_none, hsame]
        exact ⟨.refl t, by simp only [isOpen, hstate, Option.any_none]⟩
      | some state => exact ⟨lessens_state hstate rfl fun _ => rfl, rfl⟩
  | drop => exact lessens_drop t disk room

/-! ## What a tenant does to the directory -/

theorem spares_call {place : Place} {σ ε α : Type} {store? : Option σ} {put : σ → Tenant}
    {act : EStateM ε (σ × FileSystem) α}
    (h : ∀ store, store? = some store → Spares place disk (outcome act (store, disk)).2.2) :
    Spares place disk (t.call store? put act disk).2 := by
  unfold call
  cases store? with
  | none => exact .refl place disk
  | some store => exact h store rfl

theorem spares_partWith (hleads : disk.Leads t.path.toList here) (how : Parting) (room : Room) :
    Spares (here ++ [lockFile]) disk (t.partWith disk how room).2 := by
  cases how with
  | close =>
    cases room with
    | queue => exact spares_call fun queue _ => Queue.sparing_close (queue, disk) hleads
    | history => exact spares_call fun history _ => History.sparing_close (history, disk) hleads
    | state => exact .refl _ disk
  | drop => cases room <;> exact .refl _ disk

theorem spares_use (hfits : Route.Fits t.path) (hleads : disk.Leads t.path.toList here)
    (hstate : ∀ state, t.state = some state → state.path = statePath t.path) (call : StoreUse) :
    Spares (here ++ [lockFile]) disk (t.use disk call).2 := by
  cases call with
  | fold message mishap =>
    refine spares_call fun state hsome => StateStore.spares_applyWith ?_ hleads mishap message
    rw [hstate state hsome]
    exact clear_file hfits.2.1 (by simp)
  | enqueue message =>
    exact spares_call fun queue _ => Queue.sparing_enqueue message (queue, disk) hleads
  | push message =>
    exact spares_call fun history _ => History.sparing_push message (history, disk) hleads
  | dequeue => exact spares_call fun queue _ => Queue.sparing_dequeue (queue, disk) hleads

/-! ## What a tenant keeps to -/

/-- **What a tenant has to do** fits what it has. -/
inductive Stage (t : Tenant) : Prop
  /-- On its way to the lock. -/
  | arriving (createIfMissing : Bool) (openings : List Opening)
    (hagenda : t.agenda = .lock createIfMissing :: openings.map .open)
  /-- Opening stores under the lock, or with nothing to do. -/
  | staying (openings : List Opening) (hdirectory : openings ≠ [] → t.hasLock = true)
    (hagenda : t.agenda = openings.map .open)
  /-- Parting with everything that is open, and giving the lock back behind that. -/
  | leaving (rooms : List (Parting × Room))
    (hagenda : t.agenda = rooms.map (fun p => .part p.1 p.2) ++ [.release])
    (hopen : ∀ room, t.isOpen room = true → room ∈ rooms.map Prod.snd)

/-- **A tenant in order**: it has the lock as long as a store is open. -/
structure Orderly (t : Tenant) : Prop where
  stage : t.Stage
  hasLock {room : Room} (h : t.isOpen room = true) : t.hasLock = true
  statePath {state : StateStore} (h : t.state = some state) : state.path = DataDirectory.statePath t.path
  lockPath (h : t.hasLock = true) : Route.Fits (Path.join t.path lockFile)

theorem orderly_of_nothing (path : String) {agenda : List Errand}
    (h : agenda = [] ∨ ∃ createIfMissing openings,
      agenda = .lock createIfMissing :: List.map Errand.open openings) :
    Orderly { path, agenda } := by
  refine ⟨?_, fun {room} hopen => ?_, fun hstate => ?_, fun hlock => ?_⟩
  · rcases h with rfl | ⟨createIfMissing, openings, rfl⟩
    · exact .staying [] (fun h => absurd rfl h) rfl
    · exact .arriving createIfMissing openings rfl
  · cases room <;> cases hopen
  · cases hstate
  · cases hlock

theorem Orderly.lessens (h : t.Orderly) {agenda : List Errand} (hless : Lessens { t with agenda } t')
    (hstage : t'.Stage) : t'.Orderly := by
  have hlock : t'.hasLock = t.hasLock := by rw [Tenant.hasLock, hless.directory, Tenant.hasLock]
  refine ⟨hstage, fun hopen => ?_, fun hstate => ?_, fun hheld => ?_⟩
  · rw [hlock]
    exact h.hasLock (hless.isOpen hopen)
  · obtain ⟨before, hbefore, hpath⟩ := hless.statePath hstate
    rw [hpath, hless.path]
    exact h.statePath hbefore
  · rw [hless.path]
    exact h.lockPath (hlock.symm.trans hheld)

theorem Stage.lessens (h : t.Stage) (hless : t.Lessens t') : t'.Stage := by
  have hlock : t'.hasLock = t.hasLock := by rw [Tenant.hasLock, hless.directory, Tenant.hasLock]
  cases h with
  | arriving createIfMissing openings hagenda =>
    exact .arriving createIfMissing openings (hless.agenda.trans hagenda)
  | staying openings hdirectory hagenda =>
    exact .staying openings (fun h => hlock.trans (hdirectory h)) (hless.agenda.trans hagenda)
  | leaving rooms hagenda hopen =>
    exact .leaving rooms (hless.agenda.trans hagenda) fun room h => hopen room (hless.isOpen h)

theorem Orderly.depart (h : t.Orderly) (rooms : List (Parting × Room))
    (hall : ∀ room, room ∈ rooms.map Prod.snd) :
    Orderly { t with agenda := rooms.map (fun p => .part p.1 p.2) ++ [.release] } :=
  ⟨.leaving rooms rfl fun room _ => hall room, h.hasLock, h.statePath, h.lockPath⟩

theorem Orderly.giveUp (h : t.Orderly) : t.giveUp.Orderly :=
  h.depart [(.drop, .state), (.drop, .history), (.drop, .queue)] fun room => by cases room <;> decide

/-- **What a step of a tenant does**: it leaves the lock alone, takes it, is refused, or gives it
back. -/
inductive Moves (here : Place) (t : Tenant) (disk : FileSystem) : Tenant → FileSystem → Prop
  | stays {t' : Tenant} {disk' : FileSystem} (hdirectory : t'.directory = t.directory)
    (hspares : Spares (here ++ [lockFile]) disk disk') : Moves here t disk t' disk'
  | enters {t' : Tenant} {disk' : FileSystem} (directory : DataDirectory)
    (hdirectory : t'.directory = some directory) (hkeeps : Keeps disk disk')
    (hlocked : IsLocked here disk' directory.lock) (hfree : ∀ lock, ¬ IsLocked here disk lock) :
    Moves here t disk t' disk'
  | refused {t' : Tenant} {disk' : FileSystem} (hdirectory : t'.directory = t.directory)
    (hkeeps : Keeps disk disk') (hsame : ∀ lock, IsLocked here disk lock → disk' = disk) :
    Moves here t disk t' disk'
  | leaves {t' : Tenant} (directory : DataDirectory) (hbefore : t.directory = some directory)
    (hafter : t'.directory = none) : Moves here t disk t' (directory.release disk)

theorem Moves.keeps (h : Moves here t disk t' disk') : Keeps disk disk' := by
  cases h with
  | stays hdirectory hspares => exact hspares.keeps
  | enters directory hdirectory hkeeps => exact hkeeps
  | refused hdirectory hkeeps => exact hkeeps
  | leaves directory => exact ⟨id, rfl⟩

/-- **A step of a tenant in order** leaves it in order, under the same path, and is one of the
moves. -/
structure Steps (here : Place) (t : Tenant) (disk : FileSystem) (s : Tenant × FileSystem) : Prop where
  path : s.1.path = t.path
  orderly : s.1.Orderly
  moves : Moves here t disk s.1 s.2

theorem steps_plan {agenda : List Errand} (h : Orderly { t with agenda }) :
    Steps here t disk ({ t with agenda }, disk) := ⟨rfl, h, .stays rfl (.refl _ disk)⟩

theorem steps_setOut (h : t.Orderly) {agenda : List Errand}
    (hagenda : ∃ createIfMissing openings,
      agenda = .lock createIfMissing :: List.map Errand.open openings) :
    Steps here t disk (t.setOut agenda, disk) := by
  unfold setOut
  split
  · rename_i hidle
    simp only [Bool.and_eq_true, Option.isNone_iff_eq_none] at hidle
    exact ⟨rfl, orderly_of_nothing t.path (.inr hagenda), .stays hidle.1.symm (.refl _ disk)⟩
  · exact steps_plan h

theorem steps_turnBack (h : t.Orderly) (how : Parting) :
    Steps here t disk (t.turnBack how, disk) := by
  unfold turnBack
  split
  · exact steps_plan (h.depart [(how, .queue), (how, .history), (how, .state)] fun room => by
      cases room <;> simp)
  · exact steps_plan h

/-- A tenant may fail on its way in: without the lock there is nothing to drop. -/
theorem steps_fail (h : t.Orderly) : Steps here t disk (t.fail, disk) := by
  unfold fail
  split
  · exact steps_plan ⟨.staying [] (fun h => absurd rfl h) rfl, h.hasLock, h.statePath, h.lockPath⟩
  · exact steps_plan h.giveUp
  · exact steps_plan h

theorem steps_settle {σ : Type} {act : EStateM StoreError FileSystem σ} {put : σ → Tenant}
    {agenda : List Errand} (h : t.Orderly)
    (hspares : Spares (here ++ [lockFile]) disk (outcome act disk).2)
    (hput : ∀ store disk', act disk = .ok store disk' →
      (put store).path = t.path ∧ (put store).directory = t.directory ∧ (put store).Orderly) :
    Steps here t disk (settle { t with agenda } put (act disk)) := by
  simp only [outcome] at hspares
  cases hrun : act disk with
  | ok store disk' =>
    obtain ⟨hpath, hdirectory, horderly⟩ := hput store disk' hrun
    rw [hrun] at hspares
    exact ⟨hpath, horderly, .stays hdirectory hspares⟩
  | error e disk' =>
    rw [hrun] at hspares
    exact ⟨rfl, h.giveUp, .stays rfl hspares⟩

/-- **The lock** is given back when no store is open any more. -/
theorem steps_release (h : t.Orderly) (hopen : ∀ room, t.isOpen room = false) :
    Steps here t disk (run { t with agenda := [] } disk .release) := by
  simp only [run]
  cases hdirectory : t.directory with
  | none =>
    have hplan : Steps here t disk ({ t with agenda := [] }, disk) :=
      steps_plan ⟨.staying [] (fun h => absurd rfl h) rfl, h.hasLock, h.statePath, h.lockPath⟩
    rwa [hdirectory] at hplan
  | some directory =>
    refine ⟨rfl, ⟨.staying [] (fun h => absurd rfl h) rfl, fun {room} hroom => ?_, h.statePath,
      fun hlock => ?_⟩, .leaves directory hdirectory rfl⟩
    · exact absurd ((hopen room).symm.trans hroom) Bool.false_ne_true
    · cases hlock

section

variable (h : t.Orderly) (hfits : Route.Fits t.path) (hleads : disk.Leads t.path.toList here)

include h hleads

/-- **A store that was parted with** need not be parted with again. -/
theorem steps_partWith {how : Parting} {room : Room} {rooms : List (Parting × Room)}
    (hopen : ∀ other, t.isOpen other = true → other ∈ room :: rooms.map Prod.snd) :
    Steps here t disk
      (partWith { t with agenda := rooms.map (fun p => .part p.1 p.2) ++ [.release] } disk how room) := by
  obtain ⟨hless, hclosed⟩ := lessens_partWith
    { t with agenda := rooms.map (fun p => .part p.1 p.2) ++ [.release] } disk how room
  have hspares := @spares_partWith
    { t with agenda := rooms.map (fun p => .part p.1 p.2) ++ [.release] } disk here hleads how room
  refine ⟨hless.path, h.lessens hless (.leaving rooms hless.agenda fun other hother => ?_),
    .stays hless.directory hspares⟩
  rcases List.mem_cons.1 (hopen other (hless.isOpen hother)) with rfl | hmem
  · exact absurd (hclosed.symm.trans hother) Bool.false_ne_true
  · exact hmem

include hfits

theorem steps_use (call : StoreUse) : Steps here t disk (t.use disk call) := by
  have hless := lessens_use t disk call
  exact ⟨hless.path, h.lessens hless (h.stage.lessens hless),
    .stays hless.directory (spares_use hfits hleads (fun state => h.statePath) call)⟩

/-- **The lock** is taken, or the plan comes to nothing. -/
theorem steps_lock (createIfMissing : Bool) (openings : List Opening) :
    Steps here t disk
      (run { t with agenda := openings.map .open } disk (.lock createIfMissing)) := by
  have hdirectory : disk.isDirectory t.path = true := (isDirectory_iff_leads hfits).2 ⟨here, hleads⟩
  have hkeeps := keeps_takeLock t.path disk
  simp only [outcome, run, open_of_isDirectory hdirectory] at hkeeps ⊢
  cases hrun : takeLock t.path disk with
  | ok directory disk' =>
    obtain ⟨hjoin, hlocked, hfree⟩ := takeLock_ok hfits hleads hrun
    rw [hrun] at hkeeps
    exact ⟨rfl, ⟨.staying openings (fun _ => rfl) rfl, fun _ => rfl, h.statePath, fun _ => hjoin⟩,
      .enters directory rfl hkeeps hlocked hfree⟩
  | error e disk' =>
    rw [hrun] at hkeeps
    refine ⟨rfl, ⟨.staying [] (fun h => absurd rfl h) rfl, h.hasLock, h.statePath, h.lockPath⟩,
      .refused rfl hkeeps fun lock hlocked => ?_⟩
    rw [takeLock_of_isLocked hlocked hfits hleads] at hrun
    cases hrun
    rfl

/-- **A store** is opened under the lock, and does nothing to it whatever comes of it. -/
theorem steps_openStore (hlock : t.hasLock = true) (opening : Opening) (openings : List Opening) :
    Steps here t disk (openStore { t with agenda := openings.map .open } disk opening) := by
  have hstage {t' : Tenant} (hdirectory : t'.directory = t.directory)
      (hagenda : t'.agenda = openings.map .open) : t'.Stage :=
    .staying openings (fun _ => by rwa [hasLock, hdirectory]) hagenda
  cases opening with
  | queue options mishap =>
    refine steps_settle h (Queue.sparing_openFileWith ?_ mishap options disk hleads)
      fun queue disk' _ => ⟨rfl, rfl, hstage rfl rfl, fun _ => hlock, h.statePath, h.lockPath⟩
    exact clear_file hfits.2.1 (by simp)
  | history options =>
    refine steps_settle h (History.sparing_openFile ?_ options disk hleads)
      fun history disk' _ => ⟨rfl, rfl, hstage rfl rfl, fun _ => hlock, h.statePath, h.lockPath⟩
    exact clear_file hfits.2.1 (by simp)
  | state fold mishap =>
    refine steps_settle h (StateStore.sparing_openFileWith ?_ mishap fold disk hleads)
      fun state disk' hrun =>
        ⟨rfl, rfl, hstage rfl rfl, fun _ => hlock, fun hstate => ?_, h.lockPath⟩
    · exact clear_file hfits.2.1 (by simp)
    · cases hstate
      exact StateStore.path_of_openFileWith hrun

/-- **The next thing** a tenant has to do. -/
theorem steps_proceed : Steps here t disk (t.proceed disk) := by
  unfold proceed
  cases h.stage with
  | arriving createIfMissing openings hagenda =>
    rw [hagenda]
    exact steps_lock h hfits hleads createIfMissing openings
  | staying openings hdirectory hagenda =>
    cases openings with
    | nil =>
      rw [hagenda]
      exact steps_plan h
    | cons opening openings =>
      rw [hagenda]
      exact steps_openStore h hfits hleads (hdirectory (by simp)) opening openings
  | leaving rooms hagenda hopen =>
    cases rooms with
    | nil =>
      rw [hagenda]
      refine steps_release h fun room => ?_
      rw [← Bool.not_eq_true]
      exact fun hroom => absurd (hopen room hroom) (by simp)
    | cons p rooms =>
      rw [hagenda]
      exact steps_partWith h hleads hopen

/-- **Whatever a tenant does**, it steps. -/
theorem steps_act (act : Act) : Steps here t disk (t.act disk act) := by
  cases act with
  | visit createIfMissing => exact steps_setOut h ⟨createIfMissing, [], rfl⟩
  | start config fold compacting replacing => exact steps_setOut h ⟨_, _, rfl⟩
  | proceed => exact steps_proceed h hfits hleads
  | fail => exact steps_fail h
  | stop => exact steps_turnBack h .close
  | leave => exact steps_turnBack h .drop
  | use call => exact steps_use h hfits hleads call

end

end Tenant

/-- A directory and everybody who may come to it. -/
structure Premises where
  disk : FileSystem
  tenants : List Tenant

namespace Premises

/-- What happens next. -/
inductive Event
  | act (tenant : Nat) (act : Tenant.Act)
  /-- Something that is no tenant changes the file system. -/
  | outside (change : FileSystem → FileSystem)

/-- The premises behind what happens. -/
def occur (s : Premises) : Event → Premises
  | .act i act =>
    match s.tenants[i]? with
    | none => s
    | some t =>
      let (t', disk') := t.act s.disk act
      ⟨disk', s.tenants.set i t'⟩
  | .outside change => { s with disk := change s.disk }

/-- The premises behind a number of events. -/
def run (s : Premises) (events : List Event) : Premises := events.foldl occur s

/-- Premises where nobody has been yet. -/
def vacant (disk : FileSystem) (paths : List String) : Premises :=
  ⟨disk, paths.map fun path => { path }⟩

/-- Whether a tenant has the lock. -/
def hasLock (s : Premises) (i : Nat) : Bool := s.tenants[i]?.any Tenant.hasLock

/-- **Premises in order**: the tenants are, their paths lead to one directory, and who has the lock has
the lock of that directory, which only one can have. -/
structure Secure (here : Place) (s : Premises) : Prop where
  orderly {t : Tenant} (h : t ∈ s.tenants) : t.Orderly
  fits {t : Tenant} (h : t ∈ s.tenants) : Route.Fits t.path
  leads {t : Tenant} (h : t ∈ s.tenants) : s.disk.Leads t.path.toList here
  locked {i : Nat} {t : Tenant} {directory : DataDirectory} (h : s.tenants[i]? = some t)
    (hdirectory : t.directory = some directory) : IsLocked here s.disk directory.lock
  single {i j : Nat} (hi : s.hasLock i = true) (hj : s.hasLock j = true) : i = j

variable {s : Premises} {here : Place}

theorem hasLock_iff {i : Nat} : s.hasLock i = true ↔
    ∃ t directory, s.tenants[i]? = some t ∧ t.directory = some directory := by
  unfold hasLock Tenant.hasLock
  cases s.tenants[i]? with
  | none => simp
  | some t => simp [Option.isSome_iff_exists]

theorem secure_vacant {disk : FileSystem} {paths : List String}
    (h : ∀ path ∈ paths, disk.isDirectory path = true ∧ disk.Leads path.toList here) :
    Secure here (vacant disk paths) := by
  have htenant {t : Tenant} (ht : t ∈ (vacant disk paths).tenants) :
      ∃ path ∈ paths, t = { path } := by
    obtain ⟨path, hpath, rfl⟩ := List.mem_map.1 ht
    exact ⟨path, hpath, rfl⟩
  have hnobody {i : Nat} : (vacant disk paths).hasLock i = false := by
    rw [← Bool.not_eq_true]
    intro hlock
    obtain ⟨t, directory, ht, hdirectory⟩ := hasLock_iff.1 hlock
    obtain ⟨path, -, rfl⟩ := htenant (List.mem_of_getElem? ht)
    cases hdirectory
  refine ⟨fun ht => ?_, fun ht => ?_, fun ht => ?_, fun ht hdirectory => ?_, fun hi => ?_⟩
  · obtain ⟨path, -, rfl⟩ := htenant ht
    exact Tenant.orderly_of_nothing path (.inl rfl)
  · obtain ⟨path, hpath, rfl⟩ := htenant ht
    exact fits_of_isDirectory (h path hpath).1
  · obtain ⟨path, hpath, rfl⟩ := htenant ht
    exact (h path hpath).2
  · obtain ⟨path, -, rfl⟩ := htenant (List.mem_of_getElem? ht)
    cases hdirectory
  · exact absurd (hnobody.symm.trans hi) Bool.false_ne_true

/-- Premises stay in order if one tenant changes and minds the others: it has the lock of the
directory, or it has none, and where another one has the lock it has none and leaves that alone. -/
theorem Secure.set (h : Secure here s) {i : Nat} {t t' : Tenant} {disk' : FileSystem}
    (ht : s.tenants[i]? = some t) (hpath : t'.path = t.path) (horderly : t'.Orderly)
    (hkeeps : Keeps s.disk disk')
    (hmine : ∀ directory, t'.directory = some directory → IsLocked here disk' directory.lock)
    (hothers : ∀ j, j ≠ i → s.hasLock j = true →
      t'.hasLock = false ∧ ∀ lock, IsLocked here s.disk lock → IsLocked here disk' lock) :
    Secure here ⟨disk', s.tenants.set i t'⟩ := by
  have hmem := List.mem_of_getElem? ht
  have hholds {j : Nat} (hj : hasLock ⟨disk', s.tenants.set i t'⟩ j = true) :
      (j = i ∧ t'.hasLock = true) ∨ (j ≠ i ∧ s.hasLock j = true) := by
    obtain ⟨t₁, directory, ht₁, hdirectory⟩ := hasLock_iff.1 hj
    rcases eq_of_getElem?_set ht₁ with ⟨hij, rfl⟩ | ⟨hne, ht₁⟩
    · exact .inl ⟨hij, by rw [Tenant.hasLock, hdirectory]; rfl⟩
    · exact .inr ⟨hne, hasLock_iff.2 ⟨t₁, directory, ht₁, hdirectory⟩⟩
  refine ⟨fun ht₁ => ?_, fun ht₁ => ?_, fun ht₁ => ?_, fun {j t₁ directory} ht₁ hdirectory => ?_,
    fun {j k} hj hk => ?_⟩
  · rcases List.mem_or_eq_of_mem_set ht₁ with ht₁ | rfl
    · exact h.orderly ht₁
    · exact horderly
  · rcases List.mem_or_eq_of_mem_set ht₁ with ht₁ | rfl
    · exact h.fits ht₁
    · rw [hpath]
      exact h.fits hmem
  · rcases List.mem_or_eq_of_mem_set ht₁ with ht₁ | rfl
    · exact (h.leads ht₁).keeps hkeeps
    · rw [hpath]
      exact (h.leads hmem).keeps hkeeps
  · rcases eq_of_getElem?_set ht₁ with ⟨-, rfl⟩ | ⟨hne, ht₁⟩
    · exact hmine directory hdirectory
    · have hj : s.hasLock j = true := hasLock_iff.2 ⟨t₁, directory, ht₁, hdirectory⟩
      exact (hothers j hne hj).2 _ (h.locked ht₁ hdirectory)
  · rcases hholds hj with ⟨hji, hmineJ⟩ | ⟨hji, hj⟩
    · rcases hholds hk with ⟨hki, -⟩ | ⟨hki, hk⟩
      · rw [hji, hki]
      · exact absurd ((hothers k hki hk).1.symm.trans hmineJ) Bool.false_ne_true
    · rcases hholds hk with ⟨-, hmineK⟩ | ⟨-, hk⟩
      · exact absurd ((hothers j hji hj).1.symm.trans hmineK) Bool.false_ne_true
      · exact h.single hj hk

/-- **A step of one tenant** leaves the premises in order. -/
theorem Secure.steps (h : Secure here s) {i : Nat} {t t' : Tenant} {disk' : FileSystem}
    (ht : s.tenants[i]? = some t) (hsteps : t.Steps here s.disk (t', disk')) :
    Secure here ⟨disk', s.tenants.set i t'⟩ := by
  obtain ⟨hpath, horderly, hmoves⟩ := hsteps
  dsimp only at hpath horderly hmoves
  have hkeeps := hmoves.keeps
  -- Where another one has the lock, a tenant that has what it had has none.
  have hsame (hdirectory : t'.directory = t.directory) {j : Nat} (hne : j ≠ i)
      (hj : s.hasLock j = true) : t'.hasLock = false := by
    rw [← Bool.not_eq_true, Tenant.hasLock, hdirectory]
    intro hlock
    obtain ⟨directory, hdirectory⟩ := Option.isSome_iff_exists.1 hlock
    exact hne (h.single hj (hasLock_iff.2 ⟨t, directory, ht, hdirectory⟩))
  cases hmoves with
  | stays hdirectory hspares =>
    refine h.set ht hpath horderly hkeeps (fun directory hsome => ?_) fun j hne hj =>
      ⟨hsame hdirectory hne hj, fun lock hlocked => hlocked.spares hspares⟩
    exact (h.locked ht (hdirectory ▸ hsome)).spares hspares
  | enters directory hdirectory _ hnow hfree =>
    refine h.set ht hpath horderly hkeeps (fun directory' hsome => ?_) fun j hne hj => ?_
    · rw [hdirectory] at hsome
      cases hsome
      exact hnow
    · obtain ⟨t₁, directory₁, ht₁, hdirectory₁⟩ := hasLock_iff.1 hj
      exact absurd (h.locked ht₁ hdirectory₁) (hfree _)
  | refused hdirectory _ hrefused =>
    refine h.set ht hpath horderly hkeeps (fun directory hsome => ?_) fun j hne hj =>
      ⟨hsame hdirectory hne hj, fun lock hlocked => (hrefused lock hlocked).symm ▸ hlocked⟩
    have hlocked := h.locked ht (hdirectory ▸ hsome)
    exact (hrefused _ hlocked).symm ▸ hlocked
  | leaves directory hbefore hafter =>
    have hmine : s.hasLock i = true := hasLock_iff.2 ⟨t, directory, ht, hbefore⟩
    refine h.set ht hpath horderly hkeeps (fun directory' hsome => ?_) fun j hne hj =>
      absurd (h.single hj hmine) hne
    rw [hafter] at hsome
    cases hsome

theorem Secure.outside (h : Secure here s) {disk' : FileSystem}
    (hspares : Spares (here ++ [lockFile]) s.disk disk') : Secure here { s with disk := disk' } :=
  ⟨h.orderly, h.fits, fun ht => (h.leads ht).keeps hspares.keeps,
    fun ht hdirectory => (h.locked ht hdirectory).spares hspares, h.single⟩

/-- A change that everybody may make: it leaves the lock file and all directories. -/
def Event.IsAllowed (here : Place) : Event → Prop
  | .act .. => True
  | .outside change => ∀ disk, Spares (here ++ [lockFile]) disk (change disk)

/-- **One event** leaves the premises in order. -/
theorem Secure.occur (h : Secure here s) {event : Event} (hallowed : event.IsAllowed here) :
    Secure here (s.occur event) := by
  cases event with
  | act i act =>
    simp only [Premises.occur]
    cases ht : s.tenants[i]? with
    | none => exact h
    | some t =>
      have hmem := List.mem_of_getElem? ht
      exact h.steps ht (Tenant.steps_act (h.orderly hmem) (h.fits hmem) (h.leads hmem) act)
  | outside change => exact h.outside (hallowed s.disk)

/-- **Every run** leaves the premises in order. -/
theorem Secure.run {events : List Event} (h : Secure here s)
    (hallowed : ∀ event ∈ events, event.IsAllowed here) : Secure here (s.run events) := by
  induction events generalizing s with
  | nil => exact h
  | cons event events ih =>
    exact ih (h.occur (hallowed event (List.mem_cons_self ..))) fun e he =>
      hallowed e (List.mem_cons_of_mem _ he)

/-! ## One writer -/

/-- **Nobody else gets in**: whoever opens the directory or starts a coordinator in it, by whatever
path leads there, is refused and changes nothing. So is a tenant whose next step is the lock. -/
structure KeepsOut (here : Place) (s : Premises) : Prop where
  visit {path : String} (hpath : s.disk.isDirectory path = true)
    (hleads : s.disk.Leads path.toList here) (createIfMissing : Bool) :
    DataDirectory.open path createIfMissing s.disk = .error (refusal path) s.disk
  start {config : Config} (hpath : s.disk.isDirectory config.dataDirectory = true)
    (hleads : s.disk.Leads config.dataDirectory.toList here) (fold : Fold) :
    FileStores.open config fold s.disk = .error (refusal config.dataDirectory) s.disk
  tenant {j : Nat} {t : Tenant} {createIfMissing : Bool} {rest : List Errand}
    (ht : s.tenants[j]? = some t) (hagenda : t.agenda = .lock createIfMissing :: rest) :
    s.occur (.act j .proceed) = ⟨s.disk, s.tenants.set j { t with agenda := [] }⟩

theorem Secure.keepsOut (h : Secure here s) {lock : Entry} (hlocked : IsLocked here s.disk lock) :
    KeepsOut here s := by
  have hrefused {path : String} (hpath : s.disk.isDirectory path = true)
      (hleads : s.disk.Leads path.toList here) (createIfMissing : Bool) :
      DataDirectory.open path createIfMissing s.disk = .error (refusal path) s.disk := by
    rw [open_of_isDirectory hpath]
    exact takeLock_of_isLocked hlocked (fits_of_isDirectory hpath) hleads
  refine ⟨hrefused, fun {config} hpath hleads fold => ?_,
    fun {j t createIfMissing rest} ht hagenda => ?_⟩
  · rw [FileStores.open_eq, hrefused hpath hleads config.createIfMissing]
  · have hmem := List.mem_of_getElem? ht
    have hpath := (isDirectory_iff_leads (h.fits hmem)).2 ⟨here, h.leads hmem⟩
    simp only [Premises.occur, ht, Tenant.act, Tenant.proceed, hagenda, Tenant.run,
      hrefused hpath (h.leads hmem) createIfMissing]

/-- **One writer in a data directory.** Whatever any number of tenants do, and however their steps
mix: one of them at most has the lock; who has a store open has the lock, which is held; and while
somebody has it, nobody else gets in. Who comes by the path of the one that has it is told that
the directory is locked, as is everybody whose path leaves room for the name of the lock file. -/
theorem one_writer {disk : FileSystem} {here : Place} {paths : List String}
    (hpaths : ∀ path ∈ paths, disk.isDirectory path = true ∧ disk.Leads path.toList here)
    {events : List Event} (hallowed : ∀ event ∈ events, event.IsAllowed here) :
    let s := (vacant disk paths).run events
    (∀ i j, s.hasLock i = true → s.hasLock j = true → i = j) ∧
    (∀ (i : Nat) (t : Tenant) (room : Room), s.tenants[i]? = some t → t.isOpen room = true →
      s.hasLock i = true) ∧
    ∀ (i : Nat) (t : Tenant) (directory : DataDirectory), s.tenants[i]? = some t →
      t.directory = some directory →
      IsLocked here s.disk directory.lock ∧ s.KeepsOut here ∧
        refusal t.path = .directoryLocked t.path := by
  intro s
  have hsecure : Secure here s := (secure_vacant hpaths).run hallowed
  refine ⟨fun i j hi hj => hsecure.single hi hj, fun i t room ht hopen => ?_,
    fun i t directory ht hdirectory => ?_⟩
  · obtain ⟨directory, hdirectory⟩ := Option.isSome_iff_exists.1
      ((hsecure.orderly (List.mem_of_getElem? ht)).hasLock hopen)
    exact hasLock_iff.2 ⟨t, directory, ht, hdirectory⟩
  · have hlocked := hsecure.locked ht hdirectory
    have hholds : t.hasLock = true := by
      rw [Tenant.hasLock, hdirectory]
      rfl
    exact ⟨hlocked, hsecure.keepsOut hlocked,
      if_pos ((hsecure.orderly (List.mem_of_getElem? ht)).lockPath hholds)⟩

/-! ## Two tenants -/

/-- An empty directory, and two tenants who write its path in different ways. -/
def twoTenants : Premises :=
  vacant { names := .insert .empty ["data"] .directory } ["/data", "/data/."]

/-- The first tenant starts, and the second one comes too early. Something damages the history. The
first one stops and the second one starts; the history does not open, and while the second tenant
drops what it had, the first one is back. -/
def twoTenancies : List Event :=
  let first (act : Tenant.Act) : Event := .act 0 act
  let second (act : Tenant.Act) : Event := .act 1 act
  [first (.start { dataDirectory := "/data" } .sum none none), first .proceed, first .proceed,
    first .proceed, first .proceed, first (.use (.enqueue ⟨⟨1⟩, []⟩)), second (.visit false),
    second .proceed, .outside fun disk => disk.setBytes 2 (List.replicate 20 255), first .stop,
    first .proceed, first .proceed, first .proceed, first .proceed,
    second (.start { dataDirectory := "/data/." } .sum none none), second .proceed, second .proceed,
    first (.visit true), second .proceed, first .proceed]

/-- The second tenant still has the queue open and the lock, and the first one was refused. -/
theorem one_writer_twoTenancies :
    let s := twoTenants.run twoTenancies
    s.hasLock 0 = false ∧ s.KeepsOut ["data"] ∧
      ∃ t directory, s.tenants[1]? = some t ∧ t.isOpen .queue = true ∧ t.isOpen .history = false ∧
        t.directory = some directory ∧ IsLocked ["data"] s.disk directory.lock ∧
        refusal "/data/." = .directoryLocked "/data/." := by
  intro s
  have hpaths : ∀ path ∈ ["/data", "/data/."],
      isDirectory { names := .insert .empty ["data"] .directory } path = true ∧
        Leads { names := .insert .empty ["data"] .directory } path.toList ["data"] := by
    simp only [List.forall_mem_cons, List.not_mem_nil, false_implies, implies_true, and_true]
    exact ⟨⟨by decide +kernel, rfl⟩, ⟨by decide +kernel, rfl⟩⟩
  have hallowed : ∀ event ∈ twoTenancies, event.IsAllowed ["data"] := by
    simp only [twoTenancies, List.forall_mem_cons, List.not_mem_nil, false_implies, implies_true,
      and_true, Event.IsAllowed, true_and]
    exact fun disk => spares_setBytes _ disk 2 _
  obtain ⟨hone, hlock, hholder⟩ := one_writer hpaths hallowed
  have heval : (s.tenants[1]?.any fun t =>
      t.path = "/data/." && t.isOpen .queue && !t.isOpen .history) = true := by
    decide +kernel
  obtain ⟨t, ht, hopen⟩ := (Option.any_eq_true ..).1 heval
  simp only [Bool.and_eq_true, decide_eq_true_eq, Bool.not_eq_true'] at hopen
  obtain ⟨⟨hpath, hqueue⟩, hhistory⟩ := hopen
  have hsecond : s.hasLock 1 = true := hlock 1 t .queue ht hqueue
  obtain ⟨t', directory, ht', hdirectory⟩ := hasLock_iff.1 hsecond
  obtain rfl : t = t' := Option.some.inj (ht.symm.trans ht')
  obtain ⟨hlocked, hkeepsOut, hrefusal⟩ := hholder 1 t directory ht hdirectory
  rw [hpath] at hrefusal
  refine ⟨?_, hkeepsOut, t, directory, ht, hqueue, hhistory, hdirectory, hlocked, hrefusal⟩
  rw [← Bool.not_eq_true]
  exact fun hfirst => absurd (hone 0 1 hfirst hsecond) (by decide)

end Premises

end Replica
