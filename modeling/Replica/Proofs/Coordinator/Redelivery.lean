/-
Remote messages that are delivered again.

A deduplicating policy declines a message whose identifier is in the history, and
the history is written last. So a message is folded again only if its handler call
was cut off between the fold and the push, by a push that failed or by the death of
the process (`cutOffs`): the digest counts it once more for each time that happened
(`folded_once_but_for_cutOffs`), and a restart does not help
(`folded_again_behind_cutOffs`).
-/
import Mathlib.Data.List.Nodup
import Replica.Proofs.Coordinator.Ledger

namespace Replica

open Handler

/-! ## The policy -/

namespace RecordingPolicy

theorem not_mem_of_decide {policy : RecordingPolicy} {message : Message} {entries : List Message}
    (h : policy.deduplicates = true)
    (hwanted : (policy.decide message (.ofList entries)).1 = true) :
    message.id ∉ entries.map (·.id) := by
  intro hmem
  obtain ⟨entry, hentry, hid⟩ := List.mem_map.1 hmem
  have hcontains : (HistoryReader.ofList entries).contains message.id = true :=
    List.any_eq_true.2 ⟨entry, hentry, by simpa using hid⟩
  simp [decide, wants, h, hcontains] at hwanted

end RecordingPolicy

namespace Coordinator

variable {σ π : Type}

theorem policy_shutdown (c : Coordinator σ π) (error : CoordinatorError) :
    (c.shutdown error).2.policy = c.policy := by
  have hoffer : (c.offer error).2.policy = c.policy := rfl
  unfold shutdown
  split
  · rename_i heq
    rw [heq] at hoffer
    exact (policy_noteFatal _).trans hoffer
  · rename_i heq
    rw [heq] at hoffer
    exact hoffer

end Coordinator

/-! ## What is cut off -/

/-- Whether an event starts a deduplicating policy or delivers a remote message, or is neither a start
nor a message. -/
def Life.Event.IsRedelivery : Life.Event RecordingPolicy → Prop
  | .start _ policy _ => policy.deduplicates = true
  | .call message => message.origin = .remote
  | _ => True

/-- The message again, if the books count one more failure or death. -/
def Ledger.cutOff (before after : Ledger) (message : Message) : List Message :=
  if before.failed + before.lost < after.failed + after.lost then [message] else []

namespace Life

variable {π : Type} [Policy π]

/-- The message whose handler call a step cuts off between its fold and its push. -/
def cutOff (before after : Life π) : List Message :=
  match before.site with
  | .up _ (some (call, _)) => before.ledger.cutOff after.ledger call.message
  | _ => []

/-- The messages whose handler calls are cut off in a run. -/
def cutOffs (path : String) (fold : Fold) : List (Event π) → Life π → List Message
  | [], _ => []
  | event :: events, life =>
    let next := life.step path fold event
    life.cutOff next ++ cutOffs path fold events next

/-- The digest that is stored, with the stores open or not. -/
def HasDigest (path : String) (fold : Fold) (life : Life π) (digest : Digest) : Prop :=
  match life.site with
  | .down disk => ∃ here pending entries snapshot,
      FileStores.DirectorySays disk path here fold pending entries snapshot ∧ snapshot.digest = digest
  | .up c _ => c.stores.stores.state.snapshot.digest = digest

end Life

/-! ## The history and the books -/

/-- Whether a call at this point has folded its message and may still push it or fail to. -/
def Handler.Point.owes : Point → Bool
  | .enqueue _ | .push _ | .escalate (.store _) | .note (.store _) => true
  | _ => false

/-- Whether a call at this point is about to apply its message. -/
def Handler.Point.isWanted : Point → Bool
  | .process | .fold => true
  | _ => false

/-- Whether a call at this point is about to put its message in the queue. -/
def Handler.Point.isQueueing : Point → Bool
  | .enqueue _ => true
  | _ => false

namespace Ledger

/-- **Each identifier is in the history once**, and what was folded is in the history, was cut off, or
is owed to the history. -/
structure CountsOnce (l : Ledger) (entries cut owing : List Message) : Prop where
  distinct : ((entries ++ owing).map (·.id)).Nodup
  folded : l.folded.Perm (entries ++ cut ++ owing)

/-- **What the books and the history say of a remote message** whose handler call stands at a point:
what the history is owed is this message at most, and once it is wanted its identifier is not in the
history. -/
structure Guards (l : Ledger) (entries cut : List Message) (message : Message) (point : Point) :
    Prop where
  owed : l.owed = point.owes
  counts : l.CountsOnce entries cut (if point.owes then [message] else [])
  fresh (h : point.isWanted = true) : message.id ∉ entries.map (·.id)
  remote : point.isQueueing = false

variable {l l' : Ledger} {entries cut owing : List Message} {message : Message}

theorem cutOff_of_eq (hfailed : l'.failed = l.failed) (hlost : l'.lost = l.lost) :
    l.cutOff l' message = [] := by
  rw [cutOff, hfailed, hlost, if_neg (Nat.lt_irrefl _)]

theorem CountsOnce.fold (h : l.CountsOnce entries cut []) (hnew : message.id ∉ entries.map (·.id)) :
    CountsOnce { l with folded := l.folded ++ [message], owed := true } entries cut [message] := by
  have hdistinct := h.distinct
  rw [List.append_nil] at hdistinct
  refine ⟨?_, ?_⟩
  · rw [List.map_append, List.nodup_append]
    refine ⟨hdistinct, List.nodup_singleton _, ?_⟩
    intro a ha b hb
    rw [List.map_singleton, List.mem_singleton] at hb
    subst hb
    exact fun heq => hnew (heq ▸ ha)
  · have hfolded := h.folded
    rw [List.append_nil] at hfolded
    exact hfolded.append_right [message]

theorem CountsOnce.push (h : l.CountsOnce entries cut [message]) :
    CountsOnce { l with owed := false } (entries ++ [message]) cut [] := by
  refine ⟨?_, ?_⟩
  · rw [List.append_nil]
    exact h.distinct
  · have hswap : (entries ++ cut ++ [message]).Perm (entries ++ [message] ++ cut) := by
      rw [List.append_assoc, List.append_assoc]
      exact List.perm_append_comm.append_left entries
    rw [List.append_nil]
    exact h.folded.trans hswap

theorem CountsOnce.cutOff (h : l.CountsOnce entries cut [message]) (failed lost : Nat) :
    CountsOnce { l with failed, lost, owed := false } entries (cut ++ [message]) [] := by
  have hdistinct : (entries.map (·.id)).Nodup := by
    have hall := h.distinct
    rw [List.map_append] at hall
    exact hall.of_append_left
  refine ⟨?_, ?_⟩
  · rw [List.append_nil]
    exact hdistinct
  · rw [List.append_nil, ← List.append_assoc]
    exact h.folded

/-- No identifier is folded oftener than it was cut off, but for one time. -/
theorem CountsOnce.count_le (h : l.CountsOnce entries cut owing) (id : MessageId) :
    (l.folded.map (·.id)).count id ≤ (cut.map (·.id)).count id + 1 := by
  have hcount := (h.folded.map (·.id)).count_eq id
  have honce := List.nodup_iff_count_le_one.1 h.distinct id
  simp only [List.map_append, List.count_append] at hcount honce
  omega

end Ledger

namespace Life

variable {π : Type} [Policy π] {path : String} {here : Place} {fold : Fold} {cut : List Message}
  {c : FaultyCoordinator RecordingPolicy} {l : Ledger} {call : Call} {point : Point}

/-- The policy deduplicates, and books and history say what they have to of a remote message whose
handler call stands at a point. -/
def Guarded (path : String) (here : Place) (fold : Fold) (cut : List Message) (message : Message)
    (l : Ledger) (point : Point) (c : FaultyCoordinator RecordingPolicy) : Prop :=
  c.policy.deduplicates = true ∧ ∃ pending entries snapshot,
    c.stores.stores.Says path here fold pending entries snapshot ∧
      l.Guards entries cut message point

/-- They do so behind a move, which the books have seen. -/
def GuardedAfter (path : String) (here : Place) (fold : Fold) (cut : List Message) (message : Message)
    (l : Ledger) (point : Point) (next : Point × FaultyCoordinator RecordingPolicy) : Prop :=
  Guarded path here fold (cut ++ l.cutOff (l.move message point next.1) message) message
    (l.move message point next.1) next.1 next.2

theorem guardedAfter_of_eq {next : Point × FaultyCoordinator RecordingPolicy} {message : Message}
    (hfailed : (l.move message point next.1).failed = l.failed)
    (hlost : (l.move message point next.1).lost = l.lost)
    (h : Guarded path here fold cut message (l.move message point next.1) next.1 next.2) :
    GuardedAfter path here fold cut message l point next := by
  unfold GuardedAfter
  rw [Ledger.cutOff_of_eq hfailed hlost, List.append_nil]
  exact h

/-- Before the policy is asked, and once the message is folded or has its result, it need not be new. -/
theorem guarded_of_unwanted {message : Message} {pending entries : List Message} {snapshot : Snapshot}
    (hpolicy : c.policy.deduplicates = true)
    (hsaid : c.stores.stores.Says path here fold pending entries snapshot)
    (howed : l.owed = point.owes)
    (hcounts : l.CountsOnce entries cut (if point.owes then [message] else []))
    (hwanted : point.isWanted = false) (hqueueing : point.isQueueing = false) :
    Guarded path here fold cut message l point c :=
  ⟨hpolicy, pending, entries, snapshot, hsaid, howed, hcounts,
    fun h => absurd h (by simp [hwanted]), hqueueing⟩

theorem guarded_consult (h : Guarded path here fold cut call.message l .consult c) :
    GuardedAfter path here fold cut call.message l .consult (Handler.step call .consult c) := by
  obtain ⟨hpolicy, pending, entries, snapshot, hsaid, hguards⟩ := h
  have hreader : MessageStores.reader c.stores = .ok (.ofList entries) := hsaid.inDirectory.reader_eq
  rw [step_consult, hreader]
  by_cases hwanted : (c.policy.decide call.message (.ofList entries)).1 = true
  · have hnew := RecordingPolicy.not_mem_of_decide hpolicy hwanted
    have hpoint : (afterConsult call c.policy (.ok (.ofList entries))).1 = .process := if_pos hwanted
    rw [hpoint]
    exact guardedAfter_of_eq rfl rfl ⟨hpolicy, pending, entries, snapshot, hsaid, hguards.owed,
      hguards.counts, fun _ => hnew, rfl⟩
  · have hpoint : (afterConsult call c.policy (.ok (.ofList entries))).1 = .finished (.ok .skipped) :=
      if_neg hwanted
    rw [hpoint]
    exact guardedAfter_of_eq rfl rfl
      (guarded_of_unwanted hpolicy hsaid hguards.owed hguards.counts rfl rfl)

theorem guarded_process (h : Guarded path here fold cut call.message l .process c) :
    GuardedAfter path here fold cut call.message l .process (Handler.step call .process c) := by
  obtain ⟨hpolicy, pending, entries, snapshot, hsaid, hguards⟩ := h
  have hkept : (Policy.process call.message call.origin c.policy).2.deduplicates = true := by
    show (c.policy.process call.message call.origin).2.deduplicates = true
    unfold RecordingPolicy.process
    dsimp only
    split <;> exact hpolicy
  unfold Handler.step
  dsimp only
  split
  · exact guardedAfter_of_eq rfl rfl ⟨hkept, pending, entries, snapshot, hsaid, hguards.owed,
      hguards.counts, fun _ => hguards.fresh rfl, rfl⟩
  · exact guardedAfter_of_eq rfl rfl
      (guarded_of_unwanted hkept hsaid hguards.owed hguards.counts rfl rfl)

theorem guarded_fold (hremote : call.origin = .remote)
    (h : Guarded path here fold cut call.message l .fold c) :
    GuardedAfter path here fold cut call.message l .fold (Handler.step call .fold c) := by
  obtain ⟨hpolicy, pending, entries, snapshot, hsaid, hguards⟩ := h
  have hends : Ends (MessageStores.fold call.message) c.stores _ _ :=
    Faulty.ends_run (hsaid.fold_ends call.message) hsaid .fold
  rcases hends.cases with ⟨digest, stores, hrun, hgood⟩ | ⟨e, stores, hrun, hbad⟩
  · rw [step_fold, hrun]
    have hpoint : afterFold call (.ok digest) = .push digest := by rw [afterFold, hremote]
    rw [hpoint]
    exact guardedAfter_of_eq rfl rfl (guarded_of_unwanted hpolicy hgood rfl
      (hguards.counts.fold (hguards.fresh rfl)) rfl rfl)
  · rw [step_fold, hrun]
    exact guardedAfter_of_eq rfl rfl
      (guarded_of_unwanted hpolicy hbad hguards.owed hguards.counts rfl rfl)

theorem guarded_push {digest : Digest}
    (h : Guarded path here fold cut call.message l (.push digest) c) :
    GuardedAfter path here fold cut call.message l (.push digest)
      (Handler.step call (.push digest) c) := by
  obtain ⟨hpolicy, pending, entries, snapshot, hsaid, hguards⟩ := h
  have hends : Ends (MessageStores.push call.message) c.stores _ _ :=
    Faulty.ends_run (hsaid.push_ends call.message) hsaid .push
  rcases hends.cases with ⟨a, stores, hrun, hgood⟩ | ⟨e, stores, hrun, hbad⟩
  · rw [step_push, hrun]
    have hcounts : l.CountsOnce entries cut [call.message] := hguards.counts
    exact guardedAfter_of_eq rfl rfl (guarded_of_unwanted hpolicy hgood rfl hcounts.push rfl rfl)
  · rw [step_push, hrun]
    exact guardedAfter_of_eq rfl rfl
      (guarded_of_unwanted hpolicy hbad hguards.owed hguards.counts rfl rfl)

theorem guarded_finished {e : StoreError} {c' : FaultyCoordinator RecordingPolicy}
    (hpoint : point = .escalate (.store e) ∨ point = .note (.store e))
    (hpolicy : c'.policy = c.policy) (hstores : c'.stores = c.stores)
    (h : Guarded path here fold cut call.message l point c) :
    GuardedAfter path here fold cut call.message l point (.finished (.error (.store e)), c') := by
  obtain ⟨hdeduplicates, pending, entries, snapshot, hsaid, hguards⟩ := h
  have howes : point.owes = true := by rcases hpoint with rfl | rfl <;> rfl
  have hmove : l.move call.message point (.finished (.error (.store e))) =
      { l with failed := l.failed + 1, owed := false } := by
    rcases hpoint with rfl | rfl <;> rfl
  have hcut : l.cutOff { l with failed := l.failed + 1, owed := false } call.message =
      [call.message] := if_pos (by dsimp only; omega)
  have hcounts := hguards.counts
  rw [howes, if_pos rfl] at hcounts
  rw [← hstores] at hsaid
  rw [← hpolicy] at hdeduplicates
  unfold GuardedAfter
  dsimp only
  rw [hmove, hcut]
  exact guarded_of_unwanted hdeduplicates hsaid rfl (hcounts.cutOff _ _) rfl rfl

/-- **A move of a handler call** with a remote message keeps identifiers apart. -/
theorem guarded_step (hremote : call.origin = .remote)
    (h : Guarded path here fold cut call.message l point c) (hleft : point.result? = none) :
    GuardedAfter path here fold cut call.message l point (Handler.step call point c) := by
  obtain ⟨hpolicy, pending, entries, snapshot, hsaid, hguards⟩ := id h
  cases point with
  | finished result => cases hleft
  | consult => exact guarded_consult h
  | process => exact guarded_process h
  | fold => exact guarded_fold hremote h
  | push digest => exact guarded_push h
  | enqueue digest => exact absurd hguards.remote (by simp [Point.isQueueing])
  | check =>
    rw [step_check, afterCheck, hremote]
    split
    · exact guardedAfter_of_eq rfl rfl
        (guarded_of_unwanted hpolicy hsaid hguards.owed hguards.counts rfl rfl)
    · exact guardedAfter_of_eq rfl rfl
        (guarded_of_unwanted hpolicy hsaid hguards.owed hguards.counts rfl rfl)
  | escalate error =>
    unfold Handler.step
    dsimp only
    split
    · refine guardedAfter_of_eq rfl rfl (guarded_of_unwanted hpolicy hsaid ?_ ?_ rfl rfl)
      · rw [show l.move _ _ _ = l from rfl, hguards.owed]
        cases error <;> rfl
      · cases error <;> exact hguards.counts
    · cases error with
      | store e => exact guarded_finished (.inl rfl) rfl rfl h
      | _ =>
        exact guardedAfter_of_eq rfl rfl
          (guarded_of_unwanted hpolicy hsaid hguards.owed hguards.counts rfl rfl)
  | note error =>
    cases error with
    | store e => exact guarded_finished (.inr rfl) c.policy_noteFatal c.stores_noteFatal h
    | _ =>
      rw [← c.policy_noteFatal] at hpolicy
      rw [← c.stores_noteFatal] at hsaid
      exact guardedAfter_of_eq rfl rfl
        (guarded_of_unwanted hpolicy hsaid hguards.owed hguards.counts rfl rfl)

/-! ## Lives -/

omit [Policy π] in
theorem cutOff_of_eq {before after : Life π} (hfailed : after.ledger.failed = before.ledger.failed)
    (hlost : after.ledger.lost = before.ledger.lost) : before.cutOff after = [] := by
  unfold cutOff
  split
  · exact Ledger.cutOff_of_eq hfailed hlost
  · rfl

/-- The policy of an open directory deduplicates, and books and history say what they have to of the
handler call under way, or of none. -/
def KeepsUnder (path : String) (here : Place) (fold : Fold) (cut : List Message) (l : Ledger)
    (c : FaultyCoordinator RecordingPolicy) : Option (Call × Point) → Prop
  | none => c.policy.deduplicates = true ∧ ∃ pending entries snapshot,
      c.stores.stores.Says path here fold pending entries snapshot ∧
        l.owed = false ∧ l.CountsOnce entries cut []
  | some (call, point) => call.origin = .remote ∧ point.result? = none ∧
      Guarded path here fold cut call.message l point c

/-- **Identifiers are kept apart** in a directory and its books. -/
def Keeps (path : String) (here : Place) (fold : Fold) (cut : List Message)
    (life : Life RecordingPolicy) : Prop :=
  match life.site with
  | .down disk => life.ledger.owed = false ∧ ∃ pending entries snapshot,
      FileStores.DirectorySays disk path here fold pending entries snapshot ∧
        life.ledger.CountsOnce entries cut []
  | .up c under => KeepsUnder path here fold cut life.ledger c under

theorem keepsUnder_underWay (hremote : call.origin = .remote)
    (h : Guarded path here fold cut call.message l point c) :
    KeepsUnder path here fold cut l c (underWay call point) := by
  cases point with
  | finished result =>
    obtain ⟨hpolicy, pending, entries, snapshot, hsaid, hguards⟩ := h
    exact ⟨hpolicy, pending, entries, snapshot, hsaid, hguards.owed, hguards.counts⟩
  | _ => exact ⟨hremote, rfl, h⟩

theorem KeepsUnder.of_stores {c' : FaultyCoordinator RecordingPolicy} {l' : Ledger}
    {under : Option (Call × Point)} (h : KeepsUnder path here fold cut l c under)
    (hpolicy : c'.policy = c.policy)
    (hsaid : ∀ {pending entries snapshot}, c.stores.stores.Says path here fold pending entries snapshot →
      ∃ pending, c'.stores.stores.Says path here fold pending entries snapshot)
    (hfolded : l'.folded = l.folded) (howed : l'.owed = l.owed) :
    KeepsUnder path here fold cut l' c' under := by
  have hcounts {entries owing : List Message} (hbooks : l.CountsOnce entries cut owing) :
      l'.CountsOnce entries cut owing := ⟨hbooks.distinct, hfolded ▸ hbooks.folded⟩
  cases under with
  | none =>
    obtain ⟨hdeduplicates, pending, entries, snapshot, hbefore, hnothing, hbooks⟩ := h
    obtain ⟨pending', hafter⟩ := hsaid hbefore
    exact ⟨by rw [hpolicy, hdeduplicates], pending', entries, snapshot, hafter,
      by rw [howed, hnothing], hcounts hbooks⟩
  | some p =>
    obtain ⟨hremote, hleft, hdeduplicates, pending, entries, snapshot, hbefore, hguards⟩ := h
    obtain ⟨pending', hafter⟩ := hsaid hbefore
    exact ⟨hremote, hleft, by rw [hpolicy, hdeduplicates], pending', entries, snapshot, hafter,
      by rw [howed, hguards.owed], hcounts hguards.counts, hguards.fresh, hguards.remote⟩

theorem keeps_of_stores {under : Option (Call × Point)} {c' : FaultyCoordinator RecordingPolicy}
    {l' : Ledger} (h : KeepsUnder path here fold cut l c under) (hpolicy : c'.policy = c.policy)
    (hsaid : ∀ {pending entries snapshot}, c.stores.stores.Says path here fold pending entries snapshot →
      ∃ pending, c'.stores.stores.Says path here fold pending entries snapshot)
    (hfolded : l'.folded = l.folded) (howed : l'.owed = l.owed) (hfailed : l'.failed = l.failed)
    (hlost : l'.lost = l.lost) :
    Keeps path here fold
      (cut ++ cutOff (⟨.up c under, l⟩ : Life RecordingPolicy) ⟨.up c' under, l'⟩)
      ⟨.up c' under, l'⟩ := by
  rw [cutOff_of_eq hfailed hlost, List.append_nil]
  exact h.of_stores hpolicy hsaid hfolded howed

/-- The death of the process cuts off a handler call that owes the history its message. -/
theorem keeps_die {under : Option (Call × Point)} (h : KeepsUnder path here fold cut l c under) :
    let before : Life RecordingPolicy := ⟨.up c under, l⟩
    let after := before.step path fold .die
    after.Keeps path here fold (cut ++ before.cutOff after) := by
  cases under with
  | none =>
    obtain ⟨-, pending, entries, snapshot, hsaid, howed, hbooks⟩ := h
    refine ⟨rfl, pending, entries, snapshot, hsaid.directorySays.release, ?_⟩
    show l.bury.CountsOnce entries (cut ++ []) []
    rw [List.append_nil]
    exact ⟨hbooks.distinct, hbooks.folded⟩
  | some p =>
    obtain ⟨call, point⟩ := p
    obtain ⟨-, -, -, pending, entries, snapshot, hsaid, hguards⟩ := h
    refine ⟨rfl, pending, entries, snapshot, hsaid.directorySays.release, ?_⟩
    show l.bury.CountsOnce entries (cut ++ l.cutOff l.bury call.message) []
    have hcounts := hguards.counts
    -- Only a message that is folded and not yet in the history is cut off.
    cases howes : point.owes with
    | false =>
      rw [howes] at hcounts
      have hfailed : l.bury.failed = l.failed := rfl
      have hlost : l.bury.lost = l.lost := by simp [Ledger.bury, hguards.owed, howes]
      rw [Ledger.cutOff_of_eq hfailed hlost, List.append_nil]
      exact ⟨hcounts.distinct, hcounts.folded⟩
    | true =>
      rw [howes] at hcounts
      have hcut : l.cutOff l.bury call.message = [call.message] := by
        refine if_pos ?_
        simp only [Ledger.bury, hguards.owed, howes, Bool.toNat_true]
        omega
      rw [hcut]
      exact hcounts.cutOff _ _

/-- **One step** keeps identifiers apart. -/
theorem keeps_step {life : Life RecordingPolicy} (h : life.Keeps path here fold cut)
    {event : Event RecordingPolicy} (hevent : event.IsRedelivery) :
    (life.step path fold event).Keeps path here fold
      (cut ++ life.cutOff (life.step path fold event)) := by
  obtain ⟨site, l⟩ := life
  have hsame {life' : Life RecordingPolicy} (h' : life'.Keeps path here fold cut) :
      life'.Keeps path here fold (cut ++ life'.cutOff life') := by
    rw [cutOff_of_eq rfl rfl, List.append_nil]
    exact h'
  cases site with
  | down disk =>
    cases event with
    | start config policy faults =>
      obtain ⟨howed, pending, entries, snapshot, hsaid, hbooks⟩ := h
      have hopen := FileStores.open_of_says { config with dataDirectory := path } hsaid
      rw [show cutOff _ _ = [] from rfl, List.append_nil]
      unfold step
      dsimp only
      rcases hopen with ⟨stores, hrun, hsaid'⟩ | ⟨e, disk', hrun, hsaid'⟩
      · rw [hrun]
        exact ⟨hevent, pending, entries, snapshot, hsaid', howed, hbooks⟩
      · rw [hrun]
        exact ⟨howed, pending, entries, snapshot, hsaid', hbooks⟩
    | _ => exact hsame h
  | up c under =>
    change KeepsUnder path here fold cut l c under at h
    cases event with
    | start => exact hsame h
    | ready =>
      refine keeps_of_stores h ?_ ?_ rfl rfl rfl rfl
      · unfold Coordinator.advance
        split <;> rfl
      · intro pending entries snapshot hsaid
        refine ⟨pending, ?_⟩
        unfold Coordinator.advance
        split <;> exact hsaid
    | call call =>
      cases under with
      | none =>
        obtain ⟨hpolicy, pending, entries, snapshot, hsaid, howed, hbooks⟩ := h
        rw [show cutOff _ _ = [] from rfl, List.append_nil]
        exact ⟨hevent, rfl, guarded_of_unwanted hpolicy hsaid howed hbooks rfl rfl⟩
      | some => exact hsame h
    | proceed =>
      cases under with
      | none => exact hsame h
      | some p =>
        obtain ⟨call, point⟩ := p
        obtain ⟨hremote, hleft, hguarded⟩ := h
        exact keepsUnder_underWay hremote (guarded_step hremote hguarded hleft)
    | dequeue =>
      obtain ⟨hfolded, -, howed, hfailed, hlost⟩ := give_leaves l c.dequeue.1
      refine keeps_of_stores h (by rw [Coordinator.dequeue_eq]) (fun hsaid => ?_) hfolded howed
        hfailed hlost
      rcases says_dequeue hsaid with ⟨-, hsaid'⟩ | ⟨-, hsaid'⟩
      · exact ⟨_, hsaid'⟩
      · exact ⟨_, hsaid'⟩
    | shutdown error =>
      refine keeps_of_stores h ?_ ?_ rfl rfl rfl rfl
      · exact c.policy_shutdown error
      · intro pending entries snapshot hsaid
        refine ⟨pending, ?_⟩
        rw [Coordinator.stores_shutdown]
        exact hsaid
    | stop =>
      cases under with
      | none =>
        obtain ⟨-, pending, entries, snapshot, hsaid, howed, hbooks⟩ := h
        rw [show cutOff _ _ = [] from rfl, List.append_nil]
        exact ⟨howed, pending, entries, snapshot, directorySays_tearDown hsaid, hbooks⟩
      | some => exact hsame h
    | die => exact keeps_die h

/-- **A whole run** keeps identifiers apart. -/
theorem keeps_run {life : Life RecordingPolicy} (h : life.Keeps path here fold cut)
    {events : List (Event RecordingPolicy)} (hevents : ∀ event ∈ events, event.IsRedelivery) :
    (life.run path fold events).Keeps path here fold (cut ++ cutOffs path fold events life) := by
  induction events generalizing life cut with
  | nil =>
    rw [cutOffs, List.append_nil]
    exact h
  | cons event events ih =>
    obtain ⟨hevent, hrest⟩ := List.forall_mem_cons.1 hevents
    have hnext := ih (keeps_step h hevent) hrest
    rw [List.append_assoc] at hnext
    exact hnext

theorem directorySays_of_empty {disk : FileSystem} (fold : Fold) (hfits : Route.Fits path)
    (hleads : disk.Leads path.toList here)
    (hempty : ∀ name, disk.entry? (here ++ [name]) = none) :
    FileStores.DirectorySays disk path here fold [] [] ⟨fold.initial, 0⟩ :=
  ⟨hfits, hleads, FileSystem.tidy_of_empty hempty, .inl ⟨hempty _, rfl⟩, .inl ⟨hempty _, rfl⟩,
    .inl ⟨hempty _, rfl⟩, hempty _, hempty _⟩

theorem Keeps.count_le {life : Life RecordingPolicy} (h : life.Keeps path here fold cut)
    (id : MessageId) :
    (life.ledger.folded.map (·.id)).count id ≤ (cut.map (·.id)).count id + 1 := by
  obtain ⟨site, l⟩ := life
  cases site with
  | down disk =>
    obtain ⟨-, pending, entries, snapshot, -, hbooks⟩ := h
    exact hbooks.count_le id
  | up c under =>
    cases under with
    | none =>
      obtain ⟨-, pending, entries, snapshot, -, -, hbooks⟩ := h
      exact hbooks.count_le id
    | some p =>
      obtain ⟨-, -, -, pending, entries, snapshot, -, hguards⟩ := h
      exact hguards.counts.count_le id

omit [Policy π] in
theorem Related.hasDigest {life : Life π} (h : life.Related path fold) :
    life.HasDigest path fold (fold.digest life.ledger.folded) := by
  obtain ⟨site, l⟩ := life
  cases site with
  | down disk =>
    obtain ⟨-, here, pending, entries, snapshot, hsaid, hbooks⟩ := h.down rfl
    exact ⟨here, pending, entries, snapshot, hsaid, hbooks.digest⟩
  | up c under => exact (h.up rfl).1.digest

end Life

/-- The sum of identifiers, modulo 2^64. -/
def wrappingSum (ids : List MessageId) : UInt64 := ids.foldl (fun sum id => sum + id.value) 0

theorem Fold.digest_sum (messages : List Message) :
    Fold.sum.digest messages = ⟨wrappingSum (messages.map (·.id))⟩ := by
  have hfrom (start : UInt64) : messages.foldl Fold.sum.step ⟨start⟩ =
      ⟨messages.foldl (fun sum message => sum + message.id.value) start⟩ := by
    induction messages generalizing start with
    | nil => rfl
    | cons message messages ih => exact ih (start + message.id.value)
  rw [wrappingSum, List.foldl_map]
  exact hfrom 0

namespace Life

/-- **A remote message is counted once, and once more for each time it was cut off.** Over any lives of
an empty data directory with deduplicating policies and remote messages only, whatever calls on the
stores fail, wherever processes die and whatever is delivered again: the digest is the wrapping sum of
the identifiers folded, and an identifier is folded at most once but for the times its handler call was
cut off between the fold and the push. -/
theorem folded_once_but_for_cutOffs {path : String} {disk : FileSystem}
    (hdir : disk.isDirectory path = true)
    (hempty : ∀ here, disk.Leads path.toList here → ∀ name, disk.entry? (here ++ [name]) = none)
    {events : List (Event RecordingPolicy)} (hevents : ∀ event ∈ events, event.IsRedelivery) :
    let life := run path .sum events ⟨.down disk, {}⟩
    let cut := cutOffs path .sum events ⟨.down disk, {}⟩
    life.HasDigest path .sum ⟨wrappingSum (life.ledger.folded.map (·.id))⟩ ∧
      (∀ id, (life.ledger.folded.map (·.id)).count id ≤ (cut.map (·.id)).count id + 1) ∧
      (cut = [] → (life.ledger.folded.map (·.id)).Nodup) := by
  intro life cut
  have hfits := FileSystem.fits_of_isDirectory hdir
  obtain ⟨here, hleads⟩ := (FileSystem.isDirectory_iff_leads hfits).1 hdir
  have hsaid := directorySays_of_empty .sum hfits hleads (hempty here hleads)
  have hsound : Sound path here .sum life := by
    have hstart : Sound path here .sum (⟨.down disk, {}⟩ : Life RecordingPolicy) :=
      ⟨rfl, [], [], _, hsaid, rfl, rfl, .slnil, rfl, .slnil, rfl⟩
    exact sound_run hstart events
  have hkeeps : life.Keeps path here .sum cut := by
    have hstart : (⟨.down disk, {}⟩ : Life RecordingPolicy).Keeps path here .sum [] :=
      ⟨rfl, [], [], _, hsaid, .nil, .nil⟩
    exact keeps_run hstart hevents
  have hdigest := hsound.related.hasDigest
  rw [Fold.digest_sum] at hdigest
  refine ⟨hdigest, hkeeps.count_le, fun hnone => List.nodup_iff_count_le_one.2 fun id => ?_⟩
  have hcount := hkeeps.count_le id
  rw [hnone] at hcount
  exact hcount

/-! ## Delivered three times -/

/-- A step with the history read as a plain list, which is how it can be computed. -/
def stepOnList (path : String) (fold : Fold) (life : Life RecordingPolicy)
    (event : Event RecordingPolicy) : Life RecordingPolicy :=
  match life.site, event with
  | .up c (some (call, point)), .proceed =>
    let next := stepReading call c c.stores.stores.history.stack.reverse point
    ⟨.up next.2 (underWay call next.1), life.ledger.move call.message point next.1⟩
  | _, _ => life.step path fold event

theorem stepOnList_eq {life : Life RecordingPolicy} (h : life.Sound path here fold)
    (event : Event RecordingPolicy) : life.stepOnList path fold event = life.step path fold event := by
  obtain ⟨site, l⟩ := life
  unfold stepOnList
  split
  · rename_i c call point hsite
    change site = _ at hsite
    subst hsite
    obtain ⟨pending, entries, snapshot, hsaid, -⟩ := h
    have hreader : MessageStores.reader c.stores = .ok (.ofList entries) :=
      hsaid.inDirectory.reader_eq
    rw [hsaid.inDirectory.stack_eq, stepReading_eq call c hreader]
    rfl
  · rfl

theorem run_eq_foldl_stepOnList {life : Life RecordingPolicy} (h : life.Sound path here fold)
    (events : List (Event RecordingPolicy)) :
    life.run path fold events = events.foldl (stepOnList path fold) life := by
  unfold run
  induction events generalizing life with
  | nil => rfl
  | cons event events ih =>
    rw [List.foldl_cons, List.foldl_cons, stepOnList_eq h, ih (sound_step h event)]

theorem leads_emptyData : emptyData.Leads "/data".toList ["data"] := by
  have hfollow : (emptyData.follow [] (Route.pieces "/data".toList)).toOption = some ["data"] := by
    decide +kernel
  show emptyData.follow [] (Route.pieces "/data".toList) = .ok ["data"]
  cases hrun : emptyData.follow [] (Route.pieces "/data".toList) with
  | error e =>
    rw [hrun] at hfollow
    cases hfollow
  | ok here =>
    rw [hrun] at hfollow
    cases hfollow
    rfl

theorem entry?_emptyData {here : Place} (hleads : emptyData.Leads "/data".toList here)
    (name : String) : emptyData.entry? (here ++ [name]) = none := by
  have hhere : here = ["data"] := Except.ok.inj (hleads.symm.trans leads_emptyData)
  rw [hhere, FileSystem.entry?_below, emptyData, Table.get?_insert, if_neg (by simp)]
  rfl

theorem sound_emptyData :
    Sound "/data" ["data"] .sum (⟨.down emptyData, {}⟩ : Life RecordingPolicy) :=
  ⟨rfl, [], [], _, directorySays_of_empty .sum (by decide +kernel) leads_emptyData
    (entry?_emptyData leads_emptyData), rfl, rfl, .slnil, rfl, .slnil, rfl⟩

/-- A message is folded and its push fails; it is delivered again, and the process dies behind the fold;
it is delivered once more. -/
def deliveredThrice : List (Event RecordingPolicy) :=
  let start (faults : Faults) : Event RecordingPolicy := .start .standard { deduplicates := true } faults
  let five : Event RecordingPolicy := .call ⟨⟨⟨5⟩, []⟩, .remote⟩
  [start (fun call n => if call = .push ∧ n = 0 then some (.corrupted "") else none), .ready, five] ++
    List.replicate 7 .proceed ++ [.stop, start Faults.none, .ready, five] ++
    List.replicate 4 .proceed ++ [.die, start Faults.none, .ready, five] ++ List.replicate 5 .proceed

/-- The digest of open stores. -/
def digest? (life : Life RecordingPolicy) : Option Digest :=
  match life.site with
  | .down _ => none
  | .up c _ => some c.stores.stores.state.snapshot.digest

theorem hasDigest_of_digest? {life : Life RecordingPolicy} {digest : Digest}
    (h : life.digest? = some digest) : life.HasDigest path fold digest := by
  obtain ⟨site, l⟩ := life
  cases site with
  | down disk => cases h
  | up c under => exact Option.some.inj h

theorem run_deliveredThrice {life : Life RecordingPolicy}
    (h : run "/data" .sum deliveredThrice ⟨.down emptyData, {}⟩ = life) :
    life.ledger.folded.map (·.id) = [⟨5⟩, ⟨5⟩, ⟨5⟩] ∧ life.digest? = some ⟨15⟩ := by
  rw [run_eq_foldl_stepOnList sound_emptyData] at h
  subst h
  decide +kernel

/-- It is folded three times, so it was cut off twice at least. -/
theorem folded_once_but_for_cutOffs_deliveredThrice :
    2 ≤ ((cutOffs "/data" .sum deliveredThrice ⟨.down emptyData, {}⟩).map (·.id)).count ⟨5⟩ := by
  have hdir : emptyData.isDirectory "/data" = true := by decide +kernel
  have hempty : ∀ here, emptyData.Leads "/data".toList here →
      ∀ name, emptyData.entry? (here ++ [name]) = none := fun _ hleads => entry?_emptyData hleads
  have hevents : ∀ event ∈ deliveredThrice, event.IsRedelivery := by
    simp [deliveredThrice, Event.IsRedelivery, List.replicate]
  obtain ⟨life, hlife⟩ : ∃ life, run "/data" .sum deliveredThrice ⟨.down emptyData, {}⟩ = life :=
    ⟨_, rfl⟩
  have hfive := (folded_once_but_for_cutOffs hdir hempty hevents).2.1 ⟨5⟩
  have hthree : [(⟨5⟩ : MessageId), ⟨5⟩, ⟨5⟩].count ⟨5⟩ = 3 := by decide
  rw [hlife, (run_deliveredThrice hlife).1, hthree] at hfive
  omega

/-- **Behind a cut off a restart does not help**: the identifier is not in the history, so the message
is folded again, and the digest counts it three times. -/
theorem folded_again_behind_cutOffs :
    ∃ life, run "/data" .sum deliveredThrice ⟨.down emptyData, {}⟩ = life ∧
      life.ledger.folded.map (·.id) = [⟨5⟩, ⟨5⟩, ⟨5⟩] ∧ life.HasDigest "/data" .sum ⟨15⟩ := by
  obtain ⟨life, hlife⟩ : ∃ life, run "/data" .sum deliveredThrice ⟨.down emptyData, {}⟩ = life :=
    ⟨_, rfl⟩
  obtain ⟨hfolded, hdigest⟩ := run_deliveredThrice hlife
  exact ⟨life, hlife, hfolded, hasDigest_of_digest? hdigest⟩

end Life
end Replica
