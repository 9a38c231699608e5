/-
Where the messages of two peers are.

`Peers.Sound` says that each peer's digest is that of its history, that its history is
what was submitted there and what has come from the other peer, and that what was
submitted has arrived at the other peer, is in its inbox, or is still to be sent, in
this order. Every step keeps it, as long as the messages have identifiers of their own:
then the policy of a peer declines nothing that comes from the other.
-/
import Replica.Proofs.Peers

namespace Replica

open Handler DataDirectory

/-! ## A policy that declines what is in the history -/

namespace RecordingPolicy

/-- The policy declines a message whose identifier is in the history, and nothing else; it fails on
nothing. -/
structure IsDeduplicating (policy : RecordingPolicy) : Prop where
  deduplicates : policy.deduplicates = true
  failOn : policy.failOn = []
  rejected : policy.rejected = []
  rule : policy.rule = .any

variable {policy : RecordingPolicy} {message : Message} {entries : List Message}

theorem IsDeduplicating.decide (h : policy.IsDeduplicating) (message : Message)
    (reader : HistoryReader) : (policy.decide message reader).2.IsDeduplicating :=
  ⟨h.deduplicates, h.failOn, h.rejected, h.rule⟩

theorem IsDeduplicating.wants (h : policy.IsDeduplicating) (hnew : message.id ∉ entries.map (·.id)) :
    (policy.decide message (.ofList entries)).1 = true := by
  have hcontains : (HistoryReader.ofList entries).contains message.id = false := by
    refine List.any_eq_false.2 fun entry hentry hid => hnew ?_
    exact List.mem_map.2 ⟨entry, hentry, of_decide_eq_true hid⟩
  simp [RecordingPolicy.decide, RecordingPolicy.wants, HistoryRule.allows, h.rejected, h.rule, hcontains]

theorem IsDeduplicating.process (h : policy.IsDeduplicating) (message : Message) (origin : Origin) :
    ∃ policy', policy.process message origin = (.ok (), policy') ∧ policy'.IsDeduplicating := by
  have hfail : message.id ∉ (policy.enter.leave message origin).failOn := by
    rw [show (policy.enter.leave message origin).failOn = policy.failOn from rfl, h.failOn]
    exact List.not_mem_nil
  rw [RecordingPolicy.process, if_neg hfail]
  exact ⟨_, rfl, h.deduplicates, h.failOn, h.rejected, h.rule⟩

end RecordingPolicy

/-! ## One peer -/

/-- Where a call stands as long as nothing fails and nothing is declined. -/
def Handler.Call.MayStand (call : Call) : Point → Prop
  | .check | .process | .fold | .push _ => True
  | .consult => call.origin = .remote
  | .enqueue _ => call.origin = .local
  | _ => False

namespace Peer

/-- The message of a local call under way. -/
def creating (peer : Peer) : List Message :=
  match peer.underWay with
  | some (⟨message, .local⟩, _) => [message]
  | _ => []

/-- The message of a remote call under way. -/
def arriving (peer : Peer) : List Message :=
  match peer.underWay with
  | some (⟨message, .remote⟩, _) => [message]
  | _ => []

/-- The message of a local call under way that has not been put in the queue. -/
def unqueued (peer : Peer) : List Message :=
  match peer.underWay with
  | some (⟨_, .local⟩, .push _) => []
  | some (⟨message, .local⟩, _) => [message]
  | _ => []

/-- The message of a call under way between its fold and its push. -/
def owing (peer : Peer) : List Message :=
  match peer.underWay with
  | some (call, .enqueue _) | some (call, .push _) => [call.message]
  | _ => []

/-- What the stores of a peer say, and what in its history is from the other peer. -/
structure Account where
  pending : List Message
  history : List Message
  received : List Message

/-- What has come to a peer from the other, and whose handling has begun. -/
def arrived (peer : Peer) (a : Account) : List Message := a.received ++ peer.arriving

/-- What a peer has still to send, in order. -/
def leaving (peer : Peer) (a : Account) : List Message :=
  peer.inHand.toList ++ (a.pending ++ peer.unqueued)

/-- **A peer to which nothing bad has happened**: it runs, its stores say what they have to, its digest
is that of its history, and this is what was submitted here and what was received. -/
structure Holds (fold : Fold) (peer : Peer) (a : Account) : Prop where
  running : peer.coordinator.state = .running
  policy : peer.coordinator.policy.IsDeduplicating
  isOpen : peer.inbox.isOpen = true
  stands {call : Call} {point : Point} (h : peer.underWay = some (call, point)) : call.MayStand point
  stores : ∃ path here snapshot, Route.Fits (Path.temporary (statePath path)) ∧
    peer.coordinator.stores.Says path here fold a.pending a.history snapshot ∧
      snapshot.digest = fold.digest (a.history ++ peer.owing)
  history : (a.history ++ peer.creating).Perm (peer.submitted ++ a.received)

/-- A peer has made a move, by which nothing has arrived and nothing was sent. -/
structure Proceeds (fold : Fold) (peer : Peer) (a : Account) (peer' : Peer) (a' : Account) : Prop where
  holds : peer'.Holds fold a'
  arrived : peer'.arrived a' = peer.arrived a
  leaving : peer'.leaving a' = peer.leaving a

variable {fold : Fold} {a : Account} {c : Coordinator FileStores RecordingPolicy} {call : Call}
  {inbox : Channel} {hand : Option Message} {submitted : List Message}

theorem proceeds_check (h : Holds fold ⟨c, some (call, .check), inbox, hand, submitted⟩ a) :
    Proceeds fold ⟨c, some (call, .check), inbox, hand, submitted⟩ a
      (proceed ⟨c, some (call, .check), inbox, hand, submitted⟩) a := by
  obtain ⟨message, origin⟩ := call
  have hrunning : c.state = .running := h.running
  have hstep : Handler.step ⟨message, origin⟩ .check c =
      (afterCheck ⟨message, origin⟩ .running, c) := by
    rw [step_check, hrunning]
  unfold proceed
  dsimp only
  rw [hstep]
  cases origin with
  | «local» =>
    exact ⟨⟨hrunning, h.policy, h.isOpen, fun hunder => by cases hunder; trivial, h.stores, h.history⟩,
      rfl, rfl⟩
  | remote =>
    exact ⟨⟨hrunning, h.policy, h.isOpen, fun hunder => by cases hunder; rfl, h.stores, h.history⟩,
      rfl, rfl⟩

/-- The policy wants a message from the other peer. -/
theorem proceeds_consult (h : Holds fold ⟨c, some (call, .consult), inbox, hand, submitted⟩ a)
    (hnew : call.message.id ∉ a.history.map (·.id)) :
    Proceeds fold ⟨c, some (call, .consult), inbox, hand, submitted⟩ a
      (proceed ⟨c, some (call, .consult), inbox, hand, submitted⟩) a := by
  obtain ⟨message, origin⟩ := call
  obtain ⟨path, here, snapshot, -, hsaid, -⟩ := id h.stores
  have hreader : MessageStores.reader c.stores = .ok (.ofList a.history) := hsaid.inDirectory.reader_eq
  have hwanted := h.policy.wants hnew
  have hstep : Handler.step ⟨message, origin⟩ .consult c =
      (.process, { c with policy := (c.policy.decide message (.ofList a.history)).2 }) := by
    rw [step_consult, hreader, afterConsult]
    exact congrArg (·, _) (if_pos hwanted)
  have hremote : origin = .remote := h.stands rfl
  subst hremote
  unfold proceed
  dsimp only
  rw [hstep]
  exact ⟨⟨h.running, h.policy.decide _ _, h.isOpen, fun hunder => by cases hunder; trivial, h.stores,
    h.history⟩, rfl, rfl⟩

theorem proceeds_process (h : Holds fold ⟨c, some (call, .process), inbox, hand, submitted⟩ a) :
    Proceeds fold ⟨c, some (call, .process), inbox, hand, submitted⟩ a
      (proceed ⟨c, some (call, .process), inbox, hand, submitted⟩) a := by
  obtain ⟨message, origin⟩ := call
  obtain ⟨policy, hprocess, hpolicy⟩ := h.policy.process message origin
  have hstep : Handler.step ⟨message, origin⟩ .process c = (.fold, { c with policy }) := by
    unfold Handler.step
    dsimp only
    rw [show Policy.process message origin c.policy = _ from hprocess]
  unfold proceed
  dsimp only
  rw [hstep]
  cases origin with
  | «local» | remote =>
    exact ⟨⟨h.running, hpolicy, h.isOpen, fun hunder => by cases hunder; trivial, h.stores, h.history⟩,
      rfl, rfl⟩

theorem proceeds_fold (h : Holds fold ⟨c, some (call, .fold), inbox, hand, submitted⟩ a) :
    Proceeds fold ⟨c, some (call, .fold), inbox, hand, submitted⟩ a
      (proceed ⟨c, some (call, .fold), inbox, hand, submitted⟩) a := by
  obtain ⟨message, origin⟩ := call
  obtain ⟨path, here, snapshot, hroom, hsaid, hdigest⟩ := h.stores
  obtain ⟨digest, stores, hrun, hsaid'⟩ := hsaid.fold_ok hroom message
  have hstep : Handler.step ⟨message, origin⟩ .fold c =
      (afterFold ⟨message, origin⟩ (.ok digest), { c with stores }) := by
    rw [step_fold, outcome, show MessageStores.fold message c.stores = _ from hrun]
  have hfolded : fold.step snapshot.digest message = fold.digest (a.history ++ [message]) := by
    have hbefore : snapshot.digest = fold.digest (a.history ++ []) := hdigest
    rw [hbefore, List.append_nil, Fold.digest, Fold.digest, List.foldl_append]
    rfl
  unfold proceed
  dsimp only
  rw [hstep]
  cases origin with
  | «local» =>
    exact ⟨⟨h.running, h.policy, h.isOpen, fun hunder => by cases hunder; rfl,
      ⟨path, here, _, hroom, hsaid', hfolded⟩, h.history⟩, rfl, rfl⟩
  | remote =>
    exact ⟨⟨h.running, h.policy, h.isOpen, fun hunder => by cases hunder; trivial,
      ⟨path, here, _, hroom, hsaid', hfolded⟩, h.history⟩, rfl, rfl⟩

theorem proceeds_enqueue {digest : Digest}
    (h : Holds fold ⟨c, some (call, .enqueue digest), inbox, hand, submitted⟩ a)
    (hfits : call.message.Fits) :
    Proceeds fold ⟨c, some (call, .enqueue digest), inbox, hand, submitted⟩ a
      (proceed ⟨c, some (call, .enqueue digest), inbox, hand, submitted⟩)
      { a with pending := a.pending ++ [call.message] } := by
  obtain ⟨message, origin⟩ := call
  obtain ⟨path, here, snapshot, hroom, hsaid, hdigest⟩ := h.stores
  obtain ⟨stores, hrun, hsaid'⟩ := hsaid.enqueue_ok hfits
  have hstep : Handler.step ⟨message, origin⟩ (.enqueue digest) c =
      (.push digest, { c with stores }) := by
    rw [step_enqueue, outcome, show MessageStores.enqueue message c.stores = _ from hrun]
    rfl
  have hlocal : origin = .local := h.stands rfl
  subst hlocal
  unfold proceed
  dsimp only
  rw [hstep]
  refine ⟨⟨h.running, h.policy, h.isOpen, fun hunder => by cases hunder; trivial,
    ⟨path, here, snapshot, hroom, hsaid', hdigest⟩, h.history⟩, rfl, ?_⟩
  show hand.toList ++ (a.pending ++ [message] ++ []) = hand.toList ++ (a.pending ++ [message])
  rw [List.append_nil]

theorem proceeds_push {digest : Digest}
    (h : Holds fold ⟨c, some (call, .push digest), inbox, hand, submitted⟩ a)
    (hfits : call.message.Fits) :
    ∃ a', Proceeds fold ⟨c, some (call, .push digest), inbox, hand, submitted⟩ a
      (proceed ⟨c, some (call, .push digest), inbox, hand, submitted⟩) a' := by
  obtain ⟨message, origin⟩ := call
  obtain ⟨path, here, snapshot, hroom, hsaid, hdigest⟩ := h.stores
  obtain ⟨stores, hrun, hsaid'⟩ := hsaid.push_ok hfits
  have hstep : Handler.step ⟨message, origin⟩ (.push digest) c =
      (.finished (.ok (.applied digest)), { c with stores }) := by
    rw [step_push, outcome, show MessageStores.push message c.stores = _ from hrun]
    rfl
  have hpushed : snapshot.digest = fold.digest (a.history ++ [message] ++ []) := by
    rw [List.append_nil]
    exact hdigest
  unfold proceed
  dsimp only
  rw [hstep]
  have hhistory := h.history
  cases origin with
  | «local» =>
    refine ⟨{ a with history := a.history ++ [message] }, ⟨h.running, h.policy, h.isOpen, nofun,
      ⟨path, here, snapshot, hroom, hsaid', hpushed⟩, ?_⟩, rfl, rfl⟩
    show (a.history ++ [message] ++ []).Perm (submitted ++ a.received)
    rw [List.append_nil]
    exact hhistory
  | remote =>
    refine ⟨{ a with history := a.history ++ [message], received := a.received ++ [message] },
      ⟨h.running, h.policy, h.isOpen, nofun,
        ⟨path, here, snapshot, hroom, hsaid', hpushed⟩, ?_⟩, ?_, rfl⟩
    · show (a.history ++ [message] ++ []).Perm (submitted ++ (a.received ++ [message]))
      rw [List.append_nil, ← List.append_assoc]
      change (a.history ++ []).Perm (submitted ++ a.received) at hhistory
      rw [List.append_nil] at hhistory
      exact hhistory.append_right [message]
    · show a.received ++ [message] ++ [] = a.received ++ [message]
      rw [List.append_nil]

/-- **A move of a handler call** keeps a peer sound, if its message fits and what has arrived is new. -/
theorem Holds.proceed {peer : Peer} (h : peer.Holds fold a)
    (hfits : ∀ {call point}, peer.underWay = some (call, point) → call.message.Fits)
    (hnew : ∀ message ∈ peer.arriving, message.id ∉ a.history.map (·.id)) :
    ∃ a', Proceeds fold peer a peer.proceed a' := by
  obtain ⟨c, under, inbox, hand, submitted⟩ := peer
  cases under with
  | none => exact ⟨a, h, rfl, rfl⟩
  | some p =>
    obtain ⟨call, point⟩ := p
    have hstands : call.MayStand point := h.stands rfl
    cases point with
    | check => exact ⟨a, proceeds_check h⟩
    | consult =>
      obtain ⟨message, origin⟩ := call
      cases origin with
      | «local» => cases hstands
      | remote => exact ⟨a, proceeds_consult h (hnew message (List.mem_singleton_self _))⟩
    | process => exact ⟨a, proceeds_process h⟩
    | fold => exact ⟨a, proceeds_fold h⟩
    | enqueue => exact ⟨_, proceeds_enqueue h (hfits rfl)⟩
    | push => exact proceeds_push h (hfits rfl)
    | _ => exact hstands.elim

@[simp] theorem proceed_inbox (peer : Peer) : peer.proceed.inbox = peer.inbox := by
  unfold proceed
  split <;> rfl

@[simp] theorem proceed_submitted (peer : Peer) : peer.proceed.submitted = peer.submitted := by
  unfold proceed
  split <;> rfl

@[simp] theorem receive_submitted (peer : Peer) : peer.receive.submitted = peer.submitted := by
  unfold receive
  split <;> rfl

@[simp] theorem take_inbox (peer : Peer) : peer.take.inbox = peer.inbox := by
  unfold take
  split
  · rfl
  · split <;> rfl

@[simp] theorem take_submitted (peer : Peer) : peer.take.submitted = peer.submitted := by
  unfold take
  split
  · rfl
  · split <;> rfl

/-- A move with the history read as a plain list, which is how it can be computed. -/
def proceedReading (peer : Peer) : Peer :=
  match peer.underWay with
  | none => peer
  | some (call, point) =>
    { peer with
      coordinator := (stepReading call peer.coordinator peer.history point).2
      underWay := Life.underWay call (stepReading call peer.coordinator peer.history point).1 }

theorem Holds.history_eq {peer : Peer} (h : peer.Holds fold a) : peer.history = a.history := by
  obtain ⟨path, here, snapshot, -, hsaid, -⟩ := h.stores
  exact hsaid.inDirectory.stack_eq

theorem Holds.proceedReading_eq {peer : Peer} (h : peer.Holds fold a) :
    peer.proceedReading = peer.proceed := by
  obtain ⟨path, here, snapshot, -, hsaid, -⟩ := h.stores
  have hreader : MessageStores.reader peer.coordinator.stores = .ok (.ofList peer.history) := by
    rw [h.history_eq]
    exact hsaid.inDirectory.reader_eq
  unfold Peer.proceedReading Peer.proceed
  cases peer.underWay with
  | none => rfl
  | some p => simp only [stepReading_eq _ _ hreader]

theorem Holds.submit {peer : Peer} (h : peer.Holds fold a) (message : Message) :
    (peer.submit message).Holds fold a := by
  obtain ⟨c, under, inbox, hand, submitted⟩ := peer
  cases under with
  | some p => exact h
  | none =>
    refine ⟨h.running, h.policy, h.isOpen, fun hunder => by cases hunder; trivial, h.stores, ?_⟩
    have hhistory : (a.history ++ []).Perm (submitted ++ a.received) := h.history
    rw [List.append_nil] at hhistory
    have hswap : (submitted ++ a.received ++ [message]).Perm (submitted ++ [message] ++ a.received) := by
      rw [List.append_assoc, List.append_assoc]
      exact List.perm_append_comm.append_left submitted
    exact (hhistory.append_right [message]).trans hswap

theorem Holds.receive {peer : Peer} (h : peer.Holds fold a) : peer.receive.Holds fold a := by
  obtain ⟨c, under, ⟨messages, isOpen⟩, hand, submitted⟩ := peer
  cases under with
  | some p => exact h
  | none =>
    cases messages with
    | nil => exact h
    | cons message rest =>
      exact ⟨h.running, h.policy, h.isOpen, fun hunder => by cases hunder; trivial, h.stores, h.history⟩

theorem Holds.handOver {peer : Peer} (h : peer.Holds fold a) :
    Holds fold { peer with inHand := none } a :=
  ⟨h.running, h.policy, h.isOpen, h.stands, h.stores, h.history⟩

theorem Holds.accept {peer : Peer} (h : peer.Holds fold a) (message : Message) :
    Holds fold { peer with inbox := (peer.inbox.send message).2 } a ∧
      (peer.inbox.send message).2.messages = peer.inbox.messages ++ [message] := by
  have hsend : peer.inbox.send message =
      (true, { peer.inbox with messages := peer.inbox.messages ++ [message] }) := by
    rw [Channel.send, if_pos h.isOpen]
  rw [hsend]
  exact ⟨⟨h.running, h.policy, h.isOpen, h.stands, h.stores, h.history⟩, rfl⟩

theorem Holds.take {peer : Peer} (h : peer.Holds fold a) :
    ∃ a', Proceeds fold peer a peer.take a' := by
  obtain ⟨c, under, inbox, hand, submitted⟩ := peer
  cases hand with
  | some message => exact ⟨a, h, rfl, rfl⟩
  | none =>
    obtain ⟨path, here, snapshot, hroom, hsaid, hdigest⟩ := h.stores
    obtain ⟨stores, hrun, hsaid'⟩ := hsaid.dequeue_ok
    have hdequeue : c.dequeue = (.ok a.pending.head?, { c with stores }) := by
      rw [Coordinator.dequeue, show MessageStores.dequeue c.stores = _ from hrun]
    unfold Peer.take
    dsimp only
    rw [hdequeue]
    refine ⟨{ a with pending := a.pending.tail }, ⟨h.running, h.policy, h.isOpen, h.stands,
      ⟨path, here, snapshot, hroom, hsaid', hdigest⟩, h.history⟩, rfl, ?_⟩
    unfold Peer.leaving Peer.unqueued
    cases a.pending <;> rfl

end Peer

/-! ## Both -/

namespace Peers

open Peer

variable {fold : Fold} {peers : Peers} {a b : Account} {move : Act} {steps : List (Side × Act)}
  {rest : List Message}

/-- **What was submitted at one peer** has arrived at the other, is in its inbox, or is still to be
sent, in this order. -/
def Delivers (sender receiver : Peer) (a b : Account) : Prop :=
  sender.submitted = receiver.arrived b ++ receiver.inbox.messages ++ sender.leaving a

/-- **Two peers to which nothing bad has happened.** -/
structure Sound (fold : Fold) (peers : Peers) (a b : Account) : Prop where
  near : peers.near.Holds fold a
  far : peers.far.Holds fold b
  outward : Delivers peers.near peers.far a b
  inward : Delivers peers.far peers.near b a
  fits : ∀ message ∈ peers.near.submitted ++ peers.far.submitted, message.Fits

/-- No identifier is used twice by what was submitted and what is to come. -/
def Distinct (peers : Peers) (rest : List Message) : Prop :=
  ((peers.near.submitted ++ peers.far.submitted ++ rest).map (·.id)).Nodup

theorem Sound.swap (h : peers.Sound fold a b) : peers.swap.Sound fold b a :=
  ⟨h.far, h.near, h.inward, h.outward, fun message hmessage =>
    h.fits message (List.perm_append_comm.mem_iff.1 hmessage)⟩

theorem Distinct.swap (h : peers.Distinct rest) : peers.swap.Distinct rest :=
  ((List.perm_append_comm.append_right rest).map _).nodup_iff.1 h

/-- What has arrived at a peer was submitted at the other. -/
theorem Sound.mem_of_arrived (h : peers.Sound fold a b) {message : Message}
    (hmessage : message ∈ peers.near.arrived a) : message ∈ peers.far.submitted := by
  rw [h.inward]
  simp [hmessage]

theorem Sound.fits_underWay (h : peers.Sound fold a b) {call : Call} {point : Point}
    (hunder : peers.near.underWay = some (call, point)) : call.message.Fits := by
  obtain ⟨message, origin⟩ := call
  refine h.fits _ (List.mem_append.2 ?_)
  cases origin with
  | «local» =>
    have hcreating : message ∈ a.history ++ peers.near.creating := by simp [creating, hunder]
    rcases List.mem_append.1 (h.near.history.mem_iff.1 hcreating) with hhere | hthere
    · exact .inl hhere
    · exact .inr (h.mem_of_arrived (List.mem_append_left _ hthere))
  | remote =>
    have harriving : message ∈ peers.near.arriving := by simp [arriving, hunder]
    exact .inr (h.mem_of_arrived (List.mem_append_right _ harriving))

/-- What arrives is not in the history yet. -/
theorem Sound.new (h : peers.Sound fold a b) (hdistinct : peers.Distinct rest) {message : Message}
    (hmessage : message ∈ peers.near.arriving) : message.id ∉ a.history.map (·.id) := by
  have hall : ((peers.near.submitted ++ peers.far.submitted).map (·.id)).Nodup := by
    rw [Distinct, List.map_append] at hdistinct
    exact hdistinct.of_append_left
  rw [List.map_append, List.nodup_append] at hall
  obtain ⟨-, hfar, hapart⟩ := hall
  intro hid
  obtain ⟨entry, hentry, heq⟩ := List.mem_map.1 hid
  have hthere : message.id ∈ peers.far.submitted.map (·.id) :=
    List.mem_map_of_mem (h.mem_of_arrived (List.mem_append_right _ hmessage))
  rcases List.mem_append.1 (h.near.history.mem_iff.1 (List.mem_append_left _ hentry)) with
    hsubmitted | hreceived
  · exact hapart _ (List.mem_map_of_mem hsubmitted) _ hthere heq
  · rw [h.inward, arrived, List.append_assoc, List.map_append, List.map_append, List.nodup_append] at hfar
    have harrived := hfar.1
    rw [List.nodup_append] at harrived
    exact harrived.2.2 _ (List.mem_map_of_mem hreceived) _ (List.mem_map_of_mem hmessage) heq

theorem Sound.proceeds {peer : Peer} {a' : Account} (h : peers.Sound fold a b)
    (hmove : Proceeds fold peers.near a peer a') (hinbox : peer.inbox = peers.near.inbox)
    (hsubmitted : peer.submitted = peers.near.submitted) :
    Sound fold { peers with near := peer } a' b := by
  refine ⟨hmove.holds, h.far, ?_, ?_, ?_⟩
  · rw [Delivers, hsubmitted, hmove.leaving]
    exact h.outward
  · rw [Delivers, hmove.arrived, hinbox]
    exact h.inward
  · dsimp only
    rw [hsubmitted]
    exact h.fits

theorem Sound.submit (h : peers.Sound fold a b) {message : Message} (hfits : message.Fits) :
    Sound fold (peers.act (.submit message)) a b := by
  have hnear := h.near.submit message
  obtain ⟨⟨c, under, inbox, hand, submitted⟩, far⟩ := peers
  cases under with
  | some p => exact h
  | none =>
    refine ⟨hnear, h.far, ?_, h.inward, ?_⟩
    · have hbefore : submitted = far.arrived b ++ far.inbox.messages ++
          (hand.toList ++ (a.pending ++ [])) := h.outward
      show submitted ++ [message] = far.arrived b ++ far.inbox.messages ++
        (hand.toList ++ (a.pending ++ [message]))
      rw [hbefore]
      simp
    · intro other hother
      have hcases : other = message ∨ other ∈ submitted ++ far.submitted := by
        change other ∈ submitted ++ [message] ++ far.submitted at hother
        simp only [List.mem_append, List.mem_singleton] at hother ⊢
        tauto
      rcases hcases with rfl | hbefore
      · exact hfits
      · exact h.fits other hbefore

theorem Sound.receive (h : peers.Sound fold a b) : Sound fold (peers.act .receive) a b := by
  have hnear := h.near.receive
  obtain ⟨⟨c, under, ⟨messages, isOpen⟩, hand, submitted⟩, far⟩ := peers
  cases under with
  | some p => exact h
  | none =>
    cases messages with
    | nil => exact h
    | cons message rest =>
      refine ⟨hnear, h.far, h.outward, ?_, h.fits⟩
      have hbefore : far.submitted = a.received ++ [] ++ (message :: rest) ++ far.leaving b := h.inward
      show far.submitted = a.received ++ [message] ++ rest ++ far.leaving b
      rw [hbefore]
      simp

theorem Sound.send (h : peers.Sound fold a b) : Sound fold (peers.act .send) a b := by
  obtain ⟨⟨c, under, inbox, hand, submitted⟩, far⟩ := peers
  cases hand with
  | none => exact h
  | some message =>
    obtain ⟨hfar, hinbox⟩ := h.far.accept message
    refine ⟨h.near.handOver, hfar, ?_, h.inward, h.fits⟩
    have hbefore : submitted = far.arrived b ++ far.inbox.messages ++
        ([message] ++ (a.pending ++ Peer.unqueued ⟨c, under, inbox, none, submitted⟩)) := h.outward
    show submitted = far.arrived b ++ (far.inbox.send message).2.messages ++
      ([] ++ (a.pending ++ Peer.unqueued ⟨c, under, inbox, none, submitted⟩))
    rw [hinbox]
    refine hbefore.trans ?_
    simp

/-- **One step** of the near peer keeps both peers sound. -/
theorem Sound.act (h : peers.Sound fold a b) (hdistinct : peers.Distinct rest)
    (hfits : ∀ message ∈ move.offered, message.Fits) :
    ∃ a' b', (peers.act move).Sound fold a' b' := by
  cases move with
  | submit message => exact ⟨a, b, h.submit (hfits message (List.mem_singleton_self _))⟩
  | receive => exact ⟨a, b, h.receive⟩
  | send => exact ⟨a, b, h.send⟩
  | proceed =>
    obtain ⟨a', hmove⟩ := h.near.proceed h.fits_underWay fun message => h.new hdistinct
    exact ⟨a', b, h.proceeds hmove (proceed_inbox _) (proceed_submitted _)⟩
  | take =>
    obtain ⟨a', hmove⟩ := h.near.take
    exact ⟨a', b, h.proceeds hmove (take_inbox _) (take_submitted _)⟩

theorem submitted_act (move : Act) (peers : Peers) :
    (peers.act move).far.submitted = peers.far.submitted ∧
      ((peers.act move).near.submitted = peers.near.submitted ++ move.offered ∨
        (peers.act move).near.submitted = peers.near.submitted) := by
  cases move with
  | receive => exact ⟨rfl, .inr (receive_submitted _)⟩
  | proceed => exact ⟨rfl, .inr (proceed_submitted _)⟩
  | take => exact ⟨rfl, .inr (take_submitted _)⟩
  | submit message =>
    refine ⟨rfl, ?_⟩
    show (peers.near.submit message).submitted = _ ∨ (peers.near.submit message).submitted = _
    unfold Peer.submit
    split
    · exact .inr rfl
    · exact .inl rfl
  | send =>
    show peers.send.far.submitted = _ ∧ (peers.send.near.submitted = _ ∨ peers.send.near.submitted = _)
    unfold Peers.send
    split <;> exact ⟨rfl, .inr rfl⟩

theorem Distinct.act (h : peers.Distinct (move.offered ++ rest)) : (peers.act move).Distinct rest := by
  obtain ⟨hfar, hadded | hsame⟩ := submitted_act move peers
  · have hperm : (peers.near.submitted ++ move.offered ++ peers.far.submitted ++ rest).Perm
        (peers.near.submitted ++ peers.far.submitted ++ (move.offered ++ rest)) := by
      simp only [List.append_assoc]
      exact (List.perm_append_comm_assoc ..).append_left _
    rw [Distinct, hfar, hadded]
    exact (hperm.map _).nodup_iff.2 h
  · have hsublist : (peers.near.submitted ++ peers.far.submitted ++ rest).Sublist
        (peers.near.submitted ++ peers.far.submitted ++ (move.offered ++ rest)) :=
      (List.sublist_append_right ..).append_left _
    rw [Distinct, hfar, hsame]
    exact h.sublist (hsublist.map _)

/-- **One step** of either peer keeps both sound, and identifiers apart. -/
theorem sound_step {step : Side × Act} (h : peers.Sound fold a b)
    (hdistinct : peers.Distinct (step.2.offered ++ rest))
    (hfits : ∀ message ∈ step.2.offered, message.Fits) :
    (∃ a' b', (peers.step step).Sound fold a' b') ∧ (peers.step step).Distinct rest := by
  obtain ⟨side, move⟩ := step
  cases side with
  | near => exact ⟨h.act hdistinct hfits, hdistinct.act⟩
  | far =>
    obtain ⟨b', a', hnext⟩ := h.swap.act hdistinct.swap hfits
    exact ⟨⟨a', b', hnext.swap⟩, hdistinct.swap.act.swap⟩

/-- **A whole run** keeps both peers sound, and identifiers apart. -/
theorem sound_run (h : peers.Sound fold a b) (hdistinct : peers.Distinct (submissions steps))
    (hfits : ∀ message ∈ submissions steps, message.Fits) :
    (∃ a' b', (peers.run steps).Sound fold a' b') ∧ (peers.run steps).Distinct [] := by
  induction steps generalizing peers a b with
  | nil => exact ⟨⟨a, b, h⟩, hdistinct⟩
  | cons step steps ih =>
    obtain ⟨hfirst, hrest⟩ := List.forall_mem_append.1 hfits
    obtain ⟨⟨a', b', hnext⟩, hapart⟩ := sound_step h hdistinct hfirst
    exact ih hnext hapart hrest

/-! ## Computing a run -/

/-- A step with the histories read as plain lists. -/
def stepReading (peers : Peers) : Side × Act → Peers
  | (.near, .proceed) => { peers with near := peers.near.proceedReading }
  | (.far, .proceed) => { peers with far := peers.far.proceedReading }
  | step => peers.step step

theorem Sound.stepReading_eq (h : peers.Sound fold a b) (step : Side × Act) :
    peers.stepReading step = peers.step step := by
  unfold Peers.stepReading
  split
  · rw [h.near.proceedReading_eq]
    rfl
  · rw [h.far.proceedReading_eq]
    rfl
  · rfl

theorem run_eq_foldl_stepReading (h : peers.Sound fold a b)
    (hdistinct : peers.Distinct (submissions steps))
    (hfits : ∀ message ∈ submissions steps, message.Fits) :
    peers.run steps = steps.foldl stepReading peers := by
  induction steps generalizing peers a b with
  | nil => rfl
  | cons step steps ih =>
    obtain ⟨hfirst, hrest⟩ := List.forall_mem_append.1 hfits
    obtain ⟨⟨a', b', hnext⟩, hapart⟩ := sound_step h hdistinct hfirst
    rw [List.foldl_cons, h.stepReading_eq]
    exact ih hnext hapart hrest

end Peers

end Replica
