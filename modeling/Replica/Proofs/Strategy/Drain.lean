/-
Draining the queue while the receiver may go.

A drain takes a message from the queue and then sends it. Between two sends the
receiver may take messages out of its channel, or go away with what is in it
(`ReceiverMove`). `drainDuring` is the drain with these moves between its own, and
with none of them it is `Loopback.drainFrom` (`drainFrom_eq`). Every pending message
is accounted for: sent, still pending, or the one that was taken and could not be
sent any more. That one is lost (`drain_accounts`), so a drain keeps every message
only if the receiver stays until the queue is empty or a dequeue fails.
-/
import Replica.Proofs.Coordinator.Faults
import Replica.Proofs.Coordinator.FileStores
import Replica.Policy.Recording
import Replica.Strategy.Loopback

namespace Replica

/-! ## The receiver -/

/-- What the receiver of a channel does between two sends. -/
inductive ReceiverMove
  | receive
  | leave
  deriving DecidableEq, Repr

namespace Channel

/-- The channel behind a move of its receiver. -/
def moved (channel : Channel) : ReceiverMove → Channel
  | .receive => { channel with messages := channel.messages.tail }
  | .leave => channel.close

/-- The channel behind some moves of its receiver. -/
def after (moves : List ReceiverMove) (channel : Channel) : Channel := moves.foldl moved channel

theorem isOpen_after (moves : List ReceiverMove) (channel : Channel) :
    (channel.after moves).isOpen = true ↔ channel.isOpen = true ∧ .leave ∉ moves := by
  induction moves generalizing channel with
  | nil => simp [after]
  | cons move moves ih =>
    show ((channel.moved move).after moves).isOpen = true ↔ _
    rw [ih]
    cases move <;> simp [moved, close]

theorem send_of_open {channel : Channel} (h : channel.isOpen = true) (message : Message) :
    channel.send message = (true, { channel with messages := channel.messages ++ [message] }) := by
  rw [send, if_pos h]

theorem send_of_closed {channel : Channel} (h : ¬ channel.isOpen = true) (message : Message) :
    channel.send message = (false, channel) := by
  rw [send, if_neg h]

end Channel

namespace Loopback

/-- What a drain leaves: the coordinator, the channel, the messages that were sent, and the one that
was taken from the queue and could not be sent. -/
structure Drained (σ π : Type) where
  coordinator : Coordinator σ π
  channel : Channel
  sent : List Message := []
  lost : Option Message := none

section

variable {σ π : Type} [MessageStores σ]

/-- **A drain whose receiver moves**: `turns` holds what the receiver does before each send. -/
def drainDuring : (fuel : Nat) → (turns : Nat → List ReceiverMove) → Coordinator σ π → Channel →
    Drained σ π
  | 0, _, c, channel => { coordinator := c, channel }
  | fuel + 1, turns, c, channel =>
    match c.dequeue with
    | (.ok (some message), c') =>
      match (channel.after (turns 0)).send message with
      | (true, channel') =>
        let rest := drainDuring fuel (fun i => turns (i + 1)) c' channel'
        { rest with sent := message :: rest.sent }
      | (false, channel') => { coordinator := c', channel := channel', lost := some message }
    | (_, c') => { coordinator := c', channel }

theorem drainFrom_eq (fuel : Nat) (c : Coordinator σ π) (channel : Channel) :
    drainFrom fuel c channel =
      ((drainDuring fuel (fun _ => []) c channel).coordinator,
        (drainDuring fuel (fun _ => []) c channel).channel) := by
  induction fuel generalizing c channel with
  | zero => rfl
  | succ fuel ih =>
    unfold drainFrom drainDuring
    generalize c.dequeue = answer
    obtain ⟨given | ⟨_ | message⟩, c'⟩ := answer
    · rfl
    · rfl
    · show (match channel.send message with | (true, channel') => _ | (false, channel') => _) = _
      dsimp only [Channel.after, List.foldl_nil]
      generalize channel.send message = answer
      obtain ⟨accepted, channel'⟩ := answer
      cases accepted with
      | false => rfl
      | true => exact ih c' channel'

theorem drainDuring_of_none {fuel : Nat} {turns : Nat → List ReceiverMove} {c c' : Coordinator σ π}
    {channel : Channel} {result : Except CoordinatorError (Option Message)}
    (hnone : ∀ message, result ≠ .ok (some message)) (hdequeue : c.dequeue = (result, c')) :
    drainDuring (fuel + 1) turns c channel = { coordinator := c', channel } := by
  unfold drainDuring
  rw [hdequeue]
  obtain e | ⟨_ | message⟩ := result
  · rfl
  · rfl
  · exact absurd rfl (hnone message)

theorem drainDuring_of_some {fuel : Nat} {turns : Nat → List ReceiverMove} {c c' : Coordinator σ π}
    {channel : Channel} {message : Message} (hdequeue : c.dequeue = (.ok (some message), c')) :
    drainDuring (fuel + 1) turns c channel =
      if (channel.after (turns 0)).isOpen = true then
        let channel' := { channel.after (turns 0) with
          messages := (channel.after (turns 0)).messages ++ [message] }
        let rest := drainDuring fuel (fun i => turns (i + 1)) c' channel'
        { rest with sent := message :: rest.sent }
      else { coordinator := c', channel := channel.after (turns 0), lost := some message } := by
  rw [drainDuring, hdequeue]
  dsimp only
  by_cases hopen : (channel.after (turns 0)).isOpen = true
  · rw [if_pos hopen, Channel.send_of_open hopen]
  · rw [if_neg hopen, Channel.send_of_closed hopen]

end

/-! ## What becomes of the pending messages -/

/-- Whether the receiver has left when the send with this number is made. -/
def Gone (channel : Channel) (turns : Nat → List ReceiverMove) (i : Nat) : Prop :=
  channel.isOpen = false ∨ ∃ j ≤ i, ReceiverMove.leave ∈ turns j

theorem gone_succ_iff {channel channel' : Channel} {turns : Nat → List ReceiverMove} {i : Nat}
    (hopen : (channel.after (turns 0)).isOpen = true) (hopen' : channel'.isOpen = true) :
    Gone channel turns (i + 1) ↔ Gone channel' (fun j => turns (j + 1)) i := by
  obtain ⟨hthere, hstays⟩ := (Channel.isOpen_after ..).1 hopen
  unfold Gone
  rw [hthere, hopen']
  simp only [Bool.true_eq_false, false_or]
  constructor
  · rintro ⟨j, hj, hleave⟩
    cases j with
    | zero => exact absurd hleave hstays
    | succ j => exact ⟨j, by omega, hleave⟩
  · rintro ⟨j, hj, hleave⟩
    exact ⟨j + 1, by omega, hleave⟩

theorem gone_zero_iff {channel : Channel} {turns : Nat → List ReceiverMove} :
    Gone channel turns 0 ↔ ¬ (channel.after (turns 0)).isOpen = true := by
  rw [Channel.isOpen_after, Gone]
  cases channel.isOpen <;> simp

/-- Behind a message that is sent a later one is lost exactly if one of the rest is. -/
theorem exists_gone_succ_iff {channel channel' : Channel} {turns : Nat → List ReceiverMove}
    (hopen : (channel.after (turns 0)).isOpen = true) (hopen' : channel'.isOpen = true)
    {taken later : Nat → Prop} (htaken : taken 0) (hlater : ∀ j, later j ↔ taken (j + 1)) {n : Nat} :
    (∃ i < n + 1, (∀ j ≤ i, taken j) ∧ Gone channel turns i) ↔
      ∃ i < n, (∀ j ≤ i, later j) ∧ Gone channel' (fun j => turns (j + 1)) i := by
  constructor
  · rintro ⟨i, hi, hall, hgone⟩
    cases i with
    | zero => exact absurd hopen (gone_zero_iff.1 hgone)
    | succ i =>
      refine ⟨i, Nat.lt_of_succ_lt_succ hi, fun j hj => ?_, (gone_succ_iff hopen hopen').1 hgone⟩
      exact (hlater j).2 (hall (j + 1) (Nat.succ_le_succ hj))
  · rintro ⟨i, hi, hall, hgone⟩
    refine ⟨i + 1, Nat.succ_lt_succ hi, fun j hj => ?_, (gone_succ_iff hopen hopen').2 hgone⟩
    cases j with
    | zero => exact htaken
    | succ j => exact (hlater j).1 (hall j (Nat.le_of_succ_le_succ hj))

section

variable {π : Type} {path : String} {here : Place} {entries : List Message}
  {c : Coordinator (Faulty FileStores) π}

theorem dequeue_faulty (h : c.stores.stores.InDirectory path here entries) :
    (c.stores.faults .dequeue 0 ≠ none ∧ ∃ e c', c.dequeue = (.error e, c') ∧
        c'.stores.stores = c.stores.stores) ∨
      (c.stores.faults .dequeue 0 = none ∧ ∃ c',
        c.dequeue = (.ok c.stores.stores.queue.pending.head?, c') ∧
        c'.stores.stores.InDirectory path here entries ∧
        c'.stores.stores.queue.pending = c.stores.stores.queue.pending.tail ∧
        ∀ j, c'.stores.faults .dequeue j = c.stores.faults .dequeue (j + 1)) := by
  have hcall : (MessageStores.dequeue : EStateM StoreError (Faulty FileStores) _) =
      Faulty.run .dequeue MessageStores.dequeue := rfl
  rw [Coordinator.dequeue_eq, hcall, Faulty.outcome_run]
  cases hfault : c.stores.faults .dequeue 0 with
  | some cause => exact .inl ⟨nofun, _, _, rfl, rfl⟩
  | none =>
    obtain ⟨queue, disk, hrun, hthere, -, hpending⟩ := h.dequeue_cases
    have houtcome : outcome (MessageStores.dequeue : EStateM StoreError FileStores _) c.stores.stores =
        (.ok c.stores.stores.queue.pending.head?, { c.stores.stores with queue, disk }) := by
      rw [outcome, hrun]
    rw [houtcome]
    exact .inr ⟨rfl, _, rfl, hthere, hpending, fun _ => rfl⟩

/-- What a drain has done with the messages that were pending. -/
structure Accounts (path : String) (here : Place) (entries pending : List Message)
    (lossy : Prop) (d : Drained (Faulty FileStores) π) : Prop where
  inDirectory : d.coordinator.stores.stores.InDirectory path here entries
  pending : pending = d.sent ++ d.lost.toList ++ d.coordinator.stores.stores.queue.pending
  lost : d.lost ≠ none ↔ lossy

/-- The drain of these messages, by induction on them. -/
theorem accounts_drainDuring (h : c.stores.stores.InDirectory path here entries)
    (turns : Nat → List ReceiverMove) (channel : Channel) {fuel : Nat}
    (hfuel : c.stores.stores.queue.pending.length ≤ fuel) :
    Accounts path here entries c.stores.stores.queue.pending
      (∃ i < c.stores.stores.queue.pending.length,
        (∀ j ≤ i, c.stores.faults .dequeue j = none) ∧ Gone channel turns i)
      (drainDuring fuel turns c channel) := by
  generalize hpending : c.stores.stores.queue.pending = pending at hfuel
  induction pending generalizing c channel turns fuel with
  | nil =>
    have hnone : ¬ ∃ i < ([] : List Message).length,
        (∀ j ≤ i, c.stores.faults .dequeue j = none) ∧ Gone channel turns i := by simp
    cases fuel with
    | zero => exact ⟨h, hpending.symm, by simp [drainDuring]⟩
    | succ fuel =>
      rcases dequeue_faulty h with ⟨-, e, c', hrun, hsame⟩ | ⟨-, c', hrun, hthere, htail, -⟩
      · rw [drainDuring_of_none (by simp) hrun]
        exact ⟨hsame ▸ h, by rw [hsame, hpending]; rfl, by simp⟩
      · rw [hpending] at hrun htail
        rw [drainDuring_of_none (by simp) hrun]
        exact ⟨hthere, by rw [htail]; rfl, by simp⟩
  | cons message pending ih =>
    obtain ⟨fuel, rfl⟩ : ∃ more, fuel = more + 1 := by
      cases fuel with
      | zero => simp at hfuel
      | succ more => exact ⟨more, rfl⟩
    rcases dequeue_faulty h with ⟨hfault, e, c', hrun, hsame⟩ | ⟨hfault, c', hrun, hthere, htail, hlater⟩
    · -- The first dequeue fails, and nothing is taken.
      rw [drainDuring_of_none (by simp) hrun]
      refine ⟨hsame ▸ h, by rw [hsame, hpending]; rfl, iff_of_false (by simp) ?_⟩
      rintro ⟨i, -, hnone, -⟩
      exact hfault (hnone 0 (Nat.zero_le i))
    · rw [hpending] at hrun htail
      rw [drainDuring_of_some hrun]
      split
      · -- It is sent, and the rest is a drain of its own.
        rename_i hopen
        have hrest := ih hthere (fun i => turns (i + 1))
          { channel.after (turns 0) with
            messages := (channel.after (turns 0)).messages ++ [message] } htail
          (Nat.le_of_succ_le_succ hfuel)
        refine ⟨hrest.inDirectory, ?_, hrest.lost.trans (Iff.symm ?_)⟩
        · show message :: pending = message :: _ ++ _ ++ _
          rw [List.cons_append, List.cons_append, ← hrest.pending]
        · exact exists_gone_succ_iff hopen hopen hfault fun j => by rw [hlater]
      · -- Nobody is there to receive it.
        rename_i hclosed
        refine ⟨hthere, by rw [htail]; rfl, iff_of_true (by simp) ⟨0, by simp, ?_, ?_⟩⟩
        · intro j hj
          rw [Nat.le_zero.1 hj]
          exact hfault
        · exact gone_zero_iff.2 hclosed

/-- **What a drain does with the pending messages**, whatever the receiver does between the sends and
whichever dequeues fail. Each of them is sent, in queue order, or is still pending, but for at most one
in between. That one has left the queue and is in no channel. There is one exactly if the receiver has
left when a message that can be taken is sent, and only without one are the messages that were sent
followed by those still pending the ones that were pending before. -/
theorem drain_accounts (h : c.stores.stores.InDirectory path here entries)
    (turns : Nat → List ReceiverMove) (channel : Channel) {fuel : Nat}
    (hfuel : c.stores.stores.queue.pending.length ≤ fuel) :
    let pending := c.stores.stores.queue.pending
    let drained := drainDuring fuel turns c channel
    let still := drained.coordinator.stores.stores.queue.pending
    drained.coordinator.stores.stores.InDirectory path here entries ∧
      pending = drained.sent ++ drained.lost.toList ++ still ∧
      (drained.sent ++ still = pending ↔ drained.lost = none) ∧
      (drained.lost ≠ none ↔ ∃ i < pending.length,
        (∀ j ≤ i, c.stores.faults .dequeue j = none) ∧ Gone channel turns i) := by
  intro pending drained still
  have haccounts := accounts_drainDuring h turns channel hfuel
  have hall : pending = drained.sent ++ drained.lost.toList ++ still := haccounts.pending
  refine ⟨haccounts.inDirectory, hall, ?_, haccounts.lost⟩
  constructor
  · intro hkept
    have hlen := congrArg List.length (hkept.trans hall)
    simp only [List.length_append, Option.length_toList] at hlen
    cases hlost : drained.lost with
    | none => rfl
    | some message =>
      rw [hlost] at hlen
      simp at hlen
  · intro hnone
    rw [hall, hnone, Option.toList_none, List.append_nil]

end

/-! ## A receiver that leaves -/

/-- The stores with one more message pending. -/
def withPending (stores : FileStores) (message : Message) : Option FileStores :=
  match (MessageStores.enqueue message : EStateM StoreError FileStores Unit) stores with
  | .ok _ stores' => some stores'
  | .error .. => none

/-- Stores with these messages pending. -/
def waiting (messages : List Message) : Option FileStores :=
  match FileStores.open { dataDirectory := "/data" } .sum {} with
  | .error .. => none
  | .ok stores _ => messages.foldlM withPending stores

theorem inDirectory_of_waiting {messages : List Message} {stores : FileStores}
    (h : waiting messages = some stores) :
    ∃ here entries, stores.InDirectory "/data" here entries := by
  unfold waiting at h
  split at h
  · cases h
  · rename_i opened disk hopen
    obtain ⟨here, entries, hopened⟩ :=
      FileStores.inDirectory_of_open FileSystem.tidy_nothing hopen
    refine ⟨here, entries, ?_⟩
    clear hopen
    induction messages generalizing opened with
    | nil =>
      cases h
      exact hopened
    | cons message messages ih =>
      obtain ⟨next, hnext, h⟩ := Option.bind_eq_some_iff.1 h
      obtain ⟨queue, disk', hthere, -, hcases⟩ := hopened.enqueue_cases message
      rcases hcases with ⟨hrun, -⟩ | ⟨e, -, hrun, -⟩
      · rw [withPending, hrun] at hnext
        cases hnext
        exact ih _ h hthere
      · rw [withPending, hrun] at hnext
        cases hnext

/-- The messages 1, 2 and 3. -/
def threeMessages : List Message := [⟨⟨1⟩, []⟩, ⟨⟨2⟩, []⟩, ⟨⟨3⟩, []⟩]

/-- The receiver leaves between the first send and the second. -/
def leavesBehindFirst (i : Nat) : List ReceiverMove := if i = 1 then [.receive, .leave] else []

/-- The first message is sent, the second is lost and the third is still pending. -/
theorem drain_accounts_leavesBehindFirst :
    ∃ stores, waiting threeMessages = some stores ∧
      let drained := drainDuring 3 leavesBehindFirst
        (⟨⟨stores, .none⟩, ({} : RecordingPolicy), .armed, .running⟩ :
          Coordinator (Faulty FileStores) RecordingPolicy) {}
      drained.lost ≠ none ∧
        drained.sent ++ drained.coordinator.stores.stores.queue.pending ≠ threeMessages := by
  have heval : (waiting threeMessages).any (fun stores => stores.queue.pending = threeMessages) =
      true := by decide +kernel
  obtain ⟨stores, hstores, hpending⟩ := (Option.any_eq_true ..).1 heval
  replace hpending : stores.queue.pending = threeMessages := of_decide_eq_true hpending
  obtain ⟨here, entries, hthere⟩ := inDirectory_of_waiting hstores
  refine ⟨stores, hstores, ?_⟩
  obtain ⟨-, -, hkept, hlost⟩ := @drain_accounts RecordingPolicy "/data" here entries
    ⟨⟨stores, .none⟩, {}, .armed, .running⟩ hthere leavesBehindFirst {} 3 (by rw [hpending]; decide)
  have hone := hlost.2 ⟨1, by rw [hpending]; decide, fun _ _ => rfl, .inr ⟨1, Nat.le_refl 1, by decide⟩⟩
  rw [hpending] at hkept
  exact ⟨hone, fun h => hone (hkept.1 h)⟩

/-- **A drain loses a message**: one is pending, and the receiver has stopped. Nothing is pending behind
the drain, and nothing has been sent. -/
theorem drain_loses_message :
    ∃ stores, waiting [⟨⟨1⟩, []⟩] = some stores ∧ stores.queue.pending = [⟨⟨1⟩, []⟩] ∧
      (drain (⟨stores, {}, .armed, .running⟩ : Coordinator FileStores RecordingPolicy)
        ⟨[], false⟩).1.stores.queue.pending = [] ∧
      (drain (⟨stores, {}, .armed, .running⟩ : Coordinator FileStores RecordingPolicy)
        ⟨[], false⟩).2 = ⟨[], false⟩ := by
  have heval : (waiting [⟨⟨1⟩, []⟩]).any (fun stores => stores.queue.pending = [⟨⟨1⟩, []⟩] ∧
      (drain (⟨stores, {}, .armed, .running⟩ : Coordinator FileStores RecordingPolicy)
        ⟨[], false⟩).1.stores.queue.pending = [] ∧
      (drain (⟨stores, {}, .armed, .running⟩ : Coordinator FileStores RecordingPolicy)
        ⟨[], false⟩).2 = ⟨[], false⟩) = true := by decide +kernel
  obtain ⟨stores, hstores, h⟩ := (Option.any_eq_true ..).1 heval
  exact ⟨stores, hstores, of_decide_eq_true h⟩

end Loopback
end Replica
