/-
Two peers that deliver to each other.

Each peer runs a coordinator over a data directory of its own, with a loopback module
that hands the pending messages of this peer to the channel of the other and receives
what the other has sent. `Peers.act` is one step of the near peer, as fine as the two
interleave: a handler call begins or makes its next move, or the module takes a message
from the queue, sends it, or begins to receive one. The steps of the far peer are the
same ones seen from the other side.

Handler calls and drains in one go are runs of such steps (`run_handle`, `run_drain`).
-/
import Replica.Proofs.Coordinator.Overlap
import Replica.Proofs.Coordinator.Redelivery
import Replica.Strategy.Loopback

namespace Replica

open Handler

/-- A coordinator with its loopback module. -/
structure Peer where
  coordinator : Coordinator FileStores RecordingPolicy
  /-- The handler call that has the lock, and where it stands. -/
  underWay : Option (Call × Point) := none
  /-- What the module receives from. -/
  inbox : Channel := {}
  /-- What the module has taken from the queue and not sent yet. -/
  inHand : Option Message := none
  /-- The messages submitted here, in the order in which their calls have begun. -/
  submitted : List Message := []

namespace Peer

/-- The history, oldest first. -/
def history (peer : Peer) : List Message := peer.coordinator.stores.history.stack.reverse

/-- What is pending, oldest first. -/
def pending (peer : Peer) : List Message := peer.coordinator.stores.queue.pending

/-- A message is submitted, and its call begins if it need not wait for another. -/
def submit (message : Message) (peer : Peer) : Peer :=
  match peer.underWay with
  | some _ => peer
  | none =>
    { peer with
      underWay := some (⟨message, .local⟩, .check)
      submitted := peer.submitted ++ [message] }

/-- The module receives a message, and its call begins if it need not wait for another. -/
def receive (peer : Peer) : Peer :=
  match peer.underWay, peer.inbox.messages with
  | none, message :: rest =>
    { peer with
      underWay := some (⟨message, .remote⟩, .check)
      inbox := { peer.inbox with messages := rest } }
  | _, _ => peer

/-- The handler call makes its next move. -/
def proceed (peer : Peer) : Peer :=
  match peer.underWay with
  | none => peer
  | some (call, point) =>
    { peer with
      coordinator := (Handler.step call point peer.coordinator).2
      underWay := Life.underWay call (Handler.step call point peer.coordinator).1 }

/-- The module takes a message from the queue, if it has sent the one before. -/
def take (peer : Peer) : Peer :=
  match peer.inHand with
  | some _ => peer
  | none =>
    match peer.coordinator.dequeue with
    | (.ok given, c) => { peer with coordinator := c, inHand := given }
    | (.error _, c) => { peer with coordinator := c }

/-- No handler call is under way. -/
def IsIdle (peer : Peer) : Prop := peer.underWay = none

/-- Nothing is pending, in hand or in the inbox. -/
def IsDrained (peer : Peer) : Prop :=
  peer.pending = [] ∧ peer.inHand = none ∧ peer.inbox.messages = []

instance (peer : Peer) : Decidable peer.IsIdle :=
  decidable_of_iff (peer.underWay.isNone = true) Option.isNone_iff_eq_none

instance (peer : Peer) : Decidable peer.IsDrained := inferInstanceAs (Decidable (_ ∧ _ ∧ _))

end Peer

/-- Two peers, of which each delivers to the other. -/
structure Peers where
  near : Peer
  far : Peer

/-- The peer that makes a step. -/
inductive Side
  | near
  | far
  deriving DecidableEq, Repr

/-- The other one. -/
def Side.other : Side → Side
  | near => far
  | far => near

namespace Peers

/-- One step of a peer. -/
inductive Act
  | submit (message : Message)
  | receive
  | proceed
  | take
  | send
  deriving DecidableEq, Repr

/-- The peer on a side. -/
def on (peers : Peers) : Side → Peer
  | .near => peers.near
  | .far => peers.far

/-- The same peers, seen from the other side. -/
def swap (peers : Peers) : Peers := ⟨peers.far, peers.near⟩

/-- The near module sends what it has in hand. -/
def send (peers : Peers) : Peers :=
  match peers.near.inHand with
  | none => peers
  | some message =>
    { near := { peers.near with inHand := none }
      far := { peers.far with inbox := (peers.far.inbox.send message).2 } }

/-- **One step** of the near peer; what cannot happen changes nothing. -/
def act (act : Act) (peers : Peers) : Peers :=
  match act with
  | .submit message => { peers with near := peers.near.submit message }
  | .receive => { peers with near := peers.near.receive }
  | .proceed => { peers with near := peers.near.proceed }
  | .take => { peers with near := peers.near.take }
  | .send => peers.send

/-- One step of one of the two. -/
def step (peers : Peers) : Side × Act → Peers
  | (.near, act) => peers.act act
  | (.far, act) => (peers.swap.act act).swap

/-- **A run**: any steps of either peer, one after another. -/
def run (steps : List (Side × Act)) (peers : Peers) : Peers := steps.foldl step peers

/-- The message a step submits. -/
def Act.offered : Act → List Message
  | submit message => [message]
  | _ => []

/-- The messages submitted in a run. -/
def submissions (steps : List (Side × Act)) : List Message := steps.flatMap (·.2.offered)

theorem run_append (steps steps' : List (Side × Act)) (peers : Peers) :
    peers.run (steps ++ steps') = (peers.run steps).run steps' := List.foldl_append

/-! ## Calls and drains in one go -/

/-- **A handler call that nothing interrupts** comes to its result, and all of it is the call in one
go. -/
theorem run_handle {peers : Peers} {call : Call} {point : Point}
    (h : peers.near.underWay = some (call, point)) :
    ∃ n, peers.run (List.replicate n (.near, .proceed)) =
      { peers with near :=
        { peers.near with
          coordinator := (Handler.run call point peers.near.coordinator).2
          underWay := none } } := by
  obtain ⟨⟨c, under, inbox, hand, submitted⟩, far⟩ := peers
  change under = some (call, point) at h
  subst h
  -- Each move leaves a point of lower rank, or the result.
  induction hrank : point.rank using Nat.strongRecOn generalizing point c with
  | _ rank ih =>
    subst hrank
    have hproceed : ∀ n, run (List.replicate (n + 1) (.near, .proceed))
        ⟨⟨c, some (call, point), inbox, hand, submitted⟩, far⟩ =
      run (List.replicate n (.near, .proceed)) ⟨⟨(Handler.step call point c).2,
        Life.underWay call (Handler.step call point c).1, inbox, hand, submitted⟩, far⟩ :=
      fun n => rfl
    cases hleft : point.result? with
    | some result =>
      cases point with
      | finished result =>
        refine ⟨1, ?_⟩
        rw [Handler.run]
        rfl
      | _ => cases hleft
    | none =>
      have hlt := rank_step_lt call point c hleft
      rw [run_of_left call c hleft]
      generalize Handler.step call point c = next at hlt hproceed ⊢
      obtain ⟨point', c'⟩ := next
      cases point' with
      | finished result =>
        refine ⟨1, (hproceed 0).trans ?_⟩
        rw [Handler.run]
        rfl
      | _ =>
        obtain ⟨n, hn⟩ := ih _ hlt c' rfl
        exact ⟨n + 1, (hproceed n).trans hn⟩

/-- **A drain** of the near queue is a run of takes and sends. -/
theorem run_drain (fuel : Nat) {peers : Peers} (h : peers.near.inHand = none) :
    ∃ steps, (∀ step ∈ steps, step = (.near, .take) ∨ step = (.near, .send)) ∧
      peers.run steps =
        { near := { peers.near with
            coordinator := (Loopback.drainFrom fuel peers.near.coordinator peers.far.inbox).1 }
          far := { peers.far with
            inbox := (Loopback.drainFrom fuel peers.near.coordinator peers.far.inbox).2 } } := by
  obtain ⟨⟨c, under, inbox, hand, submitted⟩, ⟨c', under', inbox', hand', submitted'⟩⟩ := peers
  change hand = none at h
  subst h
  -- One turn of the drain is a take and a send, or the take alone if nothing was given out.
  induction fuel generalizing c inbox' with
  | zero => exact ⟨[], nofun, rfl⟩
  | succ fuel ih =>
    dsimp only at ih ⊢
    have htake : run [(.near, .take)] ⟨⟨c, under, inbox, none, submitted⟩,
          ⟨c', under', inbox', hand', submitted'⟩⟩ =
        ⟨Peer.take ⟨c, under, inbox, none, submitted⟩, ⟨c', under', inbox', hand', submitted'⟩⟩ := rfl
    unfold Peer.take at htake
    unfold Loopback.drainFrom
    dsimp only at htake ⊢
    generalize c.dequeue = answer at htake ⊢
    obtain ⟨given | ⟨_ | message⟩, c₁⟩ := answer
    · exact ⟨_, by simp, htake⟩
    · exact ⟨_, by simp, htake⟩
    · have hsend : run [(.near, .take), (.near, .send)] ⟨⟨c, under, inbox, none, submitted⟩,
            ⟨c', under', inbox', hand', submitted'⟩⟩ =
          ⟨⟨c₁, under, inbox, none, submitted⟩,
            ⟨c', under', (inbox'.send message).2, hand', submitted'⟩⟩ :=
        congrArg (run [(.near, .send)]) htake
      dsimp only
      generalize inbox'.send message = sent at hsend ⊢
      obtain ⟨accepted, inbox₁⟩ := sent
      cases accepted with
      | false => exact ⟨_, by simp, hsend⟩
      | true =>
        obtain ⟨steps, hsteps, hrun⟩ := ih c₁ inbox₁
        refine ⟨[(.near, .take), (.near, .send)] ++ steps, ?_, ?_⟩
        · intro step hstep
          rcases List.mem_append.1 hstep with hfirst | hlater
          · simpa using hfirst
          · exact hsteps step hlater
        · rw [run_append, hsend]
          exact hrun

end Peers

end Replica
