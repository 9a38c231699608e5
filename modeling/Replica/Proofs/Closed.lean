/-
Stores that have been closed.

A queue and a history are closed once their log is gone, a state store once it is marked,
and each of their calls looks for itself whether that is so. `Closable` is what the three
have in common and `Closable.Heeds` what is proved of each: a close ends the store,
whatever comes of the close, and a closed store refuses every call, lets itself be closed
again and leaves itself and its world as they are. By induction nothing that is done
later changes that (`Heeds.run_of_isClosed`), so a store that was closed once is closed
for good (`closed_for_good`).
-/
import Replica.Proofs.History
import Replica.Proofs.Queue.Calls
import Replica.Proofs.State
import Replica.Workbench.Device

namespace Replica

/-! ## Stores that can be closed -/

/-- What is done with a store, and around it. -/
inductive Handling (C ω : Type)
  | call (call : C)
  | close
  /-- Others leave this world behind. -/
  | others (world : ω)

/-- The world that others leave behind, if the store does nothing to it. -/
def Handling.left {C ω : Type} : List (Handling C ω) → ω → ω
  | [], world => world
  | others world :: later, _ => left later world
  | call _ :: later, world | close :: later, world => left later world

/-- A kind of store that can be closed: stores `S` in worlds `ω`, with calls `C` that reply `R`. -/
structure Closable (S ω C R : Type) where
  /-- The name of the store in errors. -/
  name : String
  /-- Makes a call. -/
  act : C → EStateM StoreError (S × ω) R
  close : EStateM StoreError (S × ω) Unit
  isClosed : S → Bool
  /-- How many messages the store holds or has folded. -/
  length : S → Nat

namespace Closable

variable {S ω C R : Type}

/-- The store and its world after one thing was done, whatever came of it. -/
def next (kind : Closable S ω C R) (handling : Handling C ω) (s : S × ω) : S × ω :=
  match handling with
  | .call call => (outcome (kind.act call) s).2
  | .close => (outcome kind.close s).2
  | .others world => (s.1, world)

/-- The store and its world after one thing was done after another. -/
def run (kind : Closable S ω C R) (later : List (Handling C ω)) (s : S × ω) : S × ω :=
  later.foldl (fun s handling => kind.next handling s) s

/-- The store and its world after a close, whatever came of it, and what was done later. -/
def behind (kind : Closable S ω C R) (later : List (Handling C ω)) (s : S × ω) : S × ω :=
  kind.run later (outcome kind.close s).2

/-- **A store behind its close** refuses every call and lets itself be closed again, and neither
changes anything; it stays closed and keeps its length, and its world is that of the close but for
what others did. -/
structure Ended (kind : Closable S ω C R) (later : List (Handling C ω)) (s : S × ω) : Prop where
  refuses (call : C) : outcome (kind.act call) (kind.behind later s) =
    (.error (.closed kind.name), kind.behind later s)
  closes : outcome kind.close (kind.behind later s) = (.ok (), kind.behind later s)
  isClosed : kind.isClosed (kind.behind later s).1 = true
  length : kind.length (kind.behind later s).1 = kind.length s.1
  world : (kind.behind later s).2 = Handling.left later (outcome kind.close s).2.2

/-- **A kind of store that heeds its closes.** -/
structure Heeds (kind : Closable S ω C R) : Prop where
  isClosed_close (s : S × ω) : kind.isClosed (outcome kind.close s).2.1 = true
  length_close (s : S × ω) : kind.length (outcome kind.close s).2.1 = kind.length s.1
  act_of_isClosed {s : S × ω} (h : kind.isClosed s.1 = true) (call : C) :
    outcome (kind.act call) s = (.error (.closed kind.name), s)
  close_of_isClosed {s : S × ω} (h : kind.isClosed s.1 = true) : outcome kind.close s = (.ok (), s)

namespace Heeds

variable {kind : Closable S ω C R} {s : S × ω}

/-- **One thing done** with a closed store leaves it alone, and its world to others. -/
theorem next_of_isClosed (heeds : kind.Heeds) (h : kind.isClosed s.1 = true)
    (handling : Handling C ω) : kind.next handling s = (s.1, Handling.left [handling] s.2) := by
  cases handling with
  | call call =>
    rw [next, heeds.act_of_isClosed h]
    rfl
  | close =>
    rw [next, heeds.close_of_isClosed h]
    rfl
  | others world => rfl

/-- **Whatever is done** with a closed store leaves it alone, and its world to others. -/
theorem run_of_isClosed (heeds : kind.Heeds) (h : kind.isClosed s.1 = true)
    (later : List (Handling C ω)) : kind.run later s = (s.1, Handling.left later s.2) := by
  induction later generalizing s with
  | nil => rfl
  | cons handling later ih =>
    have hnext := heeds.next_of_isClosed h handling
    have hstill : kind.isClosed (kind.next handling s).1 = true := by
      rw [hnext]
      exact h
    show kind.run later (kind.next handling s) = _
    rw [ih hstill, hnext]
    cases handling <;> rfl

theorem behind_eq (heeds : kind.Heeds) (later : List (Handling C ω)) (s : S × ω) :
    kind.behind later s =
      ((outcome kind.close s).2.1, Handling.left later (outcome kind.close s).2.2) :=
  heeds.run_of_isClosed (heeds.isClosed_close s) later

theorem ended (heeds : kind.Heeds) (later : List (Handling C ω)) (s : S × ω) :
    kind.Ended later s := by
  have hbehind := heeds.behind_eq later s
  have hclosed : kind.isClosed (kind.behind later s).1 = true := by
    rw [hbehind]
    exact heeds.isClosed_close s
  refine ⟨heeds.act_of_isClosed hclosed, heeds.close_of_isClosed hclosed, hclosed, ?_, ?_⟩
  · rw [hbehind]
    exact heeds.length_close s
  · rw [hbehind]

end Heeds

end Closable

/-! ## The queue -/

namespace Queue

variable (σ ω : Type) [ByteStore σ ω]

/-- Queues over a byte store. -/
def closable : Closable (Queue σ) ω QueueCall QueueReply where
  name := queueName
  act := QueueCall.act
  close := close
  isClosed := isClosed
  length := length

theorem heeds : (closable σ ω).Heeds where
  isClosed_close s := isClosed_close s.1 s.2
  length_close s := length_close s.1 s.2
  act_of_isClosed h call := outcome_act_of_isClosed h _ call
  close_of_isClosed h := by
    show outcome close _ = _
    rw [outcome, close_of_isClosed h]

end Queue

/-! ## The history -/

/-- A call of a history. -/
inductive HistoryCall
  | push (message : Message)
  | reader
  deriving DecidableEq, Repr, Inhabited

/-- What a call of a history that succeeds returns. -/
inductive HistoryReply
  | accepted
  | reader (reader : HistoryReader)

/-- Makes a call. -/
def HistoryCall.act {σ ω : Type} [ByteStore σ ω] : HistoryCall → History.Action σ ω HistoryReply
  | push message => do
    History.push message
    return .accepted
  | reader => observe fun (history, _) => history.reader.map .reader

namespace History

variable (σ ω : Type) [ByteStore σ ω]

/-- Histories over a byte store. -/
def closable : Closable (History σ) ω HistoryCall HistoryReply where
  name := historyName
  act := HistoryCall.act
  close := close
  isClosed := isClosed
  length := length

variable {σ ω}

/-- **A closed history** refuses every call and stays as it is. -/
theorem outcome_act_of_isClosed {history : History σ} (h : history.isClosed = true) (world : ω)
    (call : HistoryCall) :
    outcome call.act (history, world) = (.error (.closed historyName), (history, world)) := by
  cases call with
  | push message => simp only [outcome, HistoryCall.act, bind, EStateM.bind, push_of_isClosed h]
  | reader =>
    simp only [outcome, HistoryCall.act, observe, reader, h, if_true]
    rfl

variable (σ ω)

theorem heeds : (closable σ ω).Heeds where
  isClosed_close s := isClosed_close s.1 s.2
  length_close s := length_close s.1 s.2
  act_of_isClosed h call := outcome_act_of_isClosed h _ call
  close_of_isClosed h := by
    show outcome close _ = _
    rw [outcome, close_of_isClosed h]

end History

/-! ## The state store -/

/-- A call of an open state store. -/
inductive StateRequest
  /-- A fold, where one call of the replacement may fail on its own. -/
  | fold (message : Message) (mishap : Option Replacement.Mishap)
  | digest
  | snapshot

/-- What a call of a state store that succeeds returns. -/
inductive StateReply
  | digest (digest : Digest)
  | snapshot (snapshot : Snapshot)
  deriving DecidableEq, Repr, Inhabited

/-- Makes a call. -/
def StateRequest.act : StateRequest → StateStore.Action StateReply
  | fold message mishap => do
    let digest ← StateStore.applyWith mishap message
    return .digest digest
  | digest => observe fun (state, _) => state.digest.map .digest
  | snapshot => observe fun (state, _) => state.current.map .snapshot

namespace StateStore

/-- State stores in a file system. -/
def closable : Closable StateStore FileSystem StateRequest StateReply where
  name := stateName
  act := StateRequest.act
  close := modify fun (state, disk) => (state.close, disk)
  isClosed := isClosed
  length state := state.snapshot.applied.toNat

/-- **A closed state store** refuses every call and stays as it is. -/
theorem outcome_act_of_isClosed {state : StateStore} (h : state.isClosed = true) (disk : FileSystem)
    (request : StateRequest) :
    outcome request.act (state, disk) = (.error (.closed stateName), (state, disk)) := by
  cases request with
  | fold message mishap =>
    simp only [outcome, StateRequest.act, bind, EStateM.bind, applyWith_eq, h, if_true]
  | digest =>
    simp only [outcome, StateRequest.act, observe, digest, current, h, if_true]
    rfl
  | snapshot =>
    simp only [outcome, StateRequest.act, observe, current, h, if_true]
    rfl

theorem heeds : closable.Heeds where
  isClosed_close s := rfl
  length_close s := rfl
  act_of_isClosed h request := outcome_act_of_isClosed h _ request
  close_of_isClosed {s} h := by
    obtain ⟨⟨path, fold, snapshot, isClosed⟩, disk⟩ := s
    obtain rfl : isClosed = true := h
    rfl

end StateStore

/-! ## Closed for good -/

/-- **A closed store stays closed and untouched.** Close a queue, a history or a state store in
whatever state it is, and whatever comes of the close, and go on with any calls and closes while
others do in its world what they like. From then on every call fails because the named store is
closed, every close goes through, and neither changes the store or its world: the world is the one
the close left, but for what others did. The queue and the history stay as long as they were before
the close. -/
theorem closed_for_good {σ ω : Type} [ByteStore σ ω] :
    (∀ later s, (Queue.closable σ ω).Ended later s) ∧
      (∀ later s, (History.closable σ ω).Ended later s) ∧
      ∀ later s, StateStore.closable.Ended later s := by
  refine ⟨?_, ?_, ?_⟩
  · exact (Queue.heeds σ ω).ended
  · exact (History.heeds σ ω).ended
  · exact StateStore.heeds.ended

/-- A close that fails, because its sync does, ends the queue as well: the message at the head can no
longer be taken, and still counts. -/
example :
    let store : MemoryStore := { plan := { sync := fun n => n = 1 } }
    let world : Workbench.World := { disk := {}, memories := Table.empty.insert 0 store }
    let queue : Queue Workbench.Device :=
      ⟨none, some ⟨.memory 0, queueFormat, false⟩, [⟨⟨7⟩, []⟩]⟩
    let (answer, behind) := outcome Queue.close (queue, world)
    answer = .error (.storage (MemoryStore.injected "sync" 1)) ∧
      outcome Queue.dequeue behind = (.error (.closed queueName), behind) ∧ behind.1.length = 1 :=
  ⟨rfl, rfl, rfl⟩

end Replica
