/-
A data directory over many lives of its coordinator.

A coordinator is started over a directory, handles messages point by point, has
messages taken from its queue, is asked to shut down, and ends in a stop or with
the death of its process between two points. `Ledger` keeps the books of all that,
from what the calls answer alone: which folds, enqueues and dequeues have gone
through, which handler calls have returned the failure of a store, and how many
deaths have cut a handler off between the fold and the push of its message.
`Life.related_run` says that the books come out even: the digest is that of the folded
messages, the history lacks just those whose handler failed or died, and what is
pending is what was enqueued and has not been given out.
-/
import Replica.Policy.Recording
import Replica.Proofs.Coordinator.Says
import Replica.Proofs.Coordinator.System

namespace Replica

open FileSystem

/-- The books of a data directory. -/
structure Ledger where
  /-- The messages whose fold has gone through, in order. -/
  folded : List Message := []
  /-- The messages whose enqueue has gone through, in order. -/
  enqueued : List Message := []
  /-- The messages given out by dequeues, in order. -/
  given : List Message := []
  /-- How many handler calls have returned the failure of a store. -/
  failed : Nat := 0
  /-- How many deaths fell between a fold and the push of its message. -/
  lost : Nat := 0
  /-- Whether a handler call is under way between the fold and the push of its message. -/
  owed : Bool := false

/-- A coordinator over a data directory whose calls may fail. -/
abbrev FaultyCoordinator (π : Type) := Coordinator (Faulty FileStores) π

/-- A data directory: closed, or open with a coordinator and the handler call under way. -/
inductive Site (π : Type)
  | down (disk : FileSystem)
  | up (coordinator : FaultyCoordinator π) (underWay : Option (Handler.Call × Handler.Point))

/-- A data directory and its books. -/
structure Life (π : Type) where
  site : Site π
  ledger : Ledger := {}

/-- One step in the life of a data directory. -/
inductive Life.Event (π : Type)
  /-- A coordinator is started, with any options, policy and faults to come. -/
  | start (config : Config) (policy : π) (faults : Faults)
  /-- The start is over, and messages are accepted. -/
  | ready
  /-- A handler call takes the lock. -/
  | call (call : Handler.Call)
  /-- The handler call makes its next move. -/
  | proceed
  | dequeue
  | shutdown (error : CoordinatorError)
  /-- The coordinator is stopped. -/
  | stop
  /-- The process dies. -/
  | die

namespace Ledger

/-- A handler call with this message has moved from a point to the next. -/
def move (message : Message) (point next : Handler.Point) (l : Ledger) : Ledger :=
  match point, next with
  | .fold, .enqueue _ | .fold, .push _ => { l with folded := l.folded ++ [message], owed := true }
  | .enqueue _, .push _ => { l with enqueued := l.enqueued ++ [message] }
  | .push _, .finished (.ok _) => { l with owed := false }
  | _, .finished (.error (.store _)) => { l with failed := l.failed + 1, owed := false }
  | _, _ => l

/-- A dequeue has answered. -/
def give (answer : Except CoordinatorError (Option Message)) (l : Ledger) : Ledger :=
  match answer with
  | .ok (some message) => { l with given := l.given ++ [message] }
  | _ => l

/-- The process has died. -/
def bury (l : Ledger) : Ledger := { l with lost := l.lost + l.owed.toNat, owed := false }

end Ledger

namespace Life

variable {π : Type} [Policy π]

/-- What is under way once a handler call has come to a point. -/
def underWay (call : Handler.Call) (point : Handler.Point) : Option (Handler.Call × Handler.Point) :=
  match point with
  | .finished _ => none
  | point => some (call, point)

/-- **One step**; what cannot happen changes nothing. A coordinator starts and stops with no handler
call under way, as the stop waits for the lock. -/
def step (path : String) (fold : Fold) (life : Life π) (event : Event π) : Life π :=
  match life.site, event with
  | .down disk, .start config policy faults =>
    match FileStores.open { config with dataDirectory := path } fold disk with
    | .ok stores _ => { life with site := .up ⟨⟨stores, faults⟩, policy, .armed, .starting⟩ none }
    | .error _ disk' => { life with site := .down disk' }
  | .up c under, .ready => { life with site := .up (c.advance .starting .running) under }
  | .up c none, .call call => { life with site := .up c (some (call, .check)) }
  | .up c (some (call, point)), .proceed =>
    let next := Handler.step call point c
    ⟨.up next.2 (underWay call next.1), life.ledger.move call.message point next.1⟩
  | .up c under, .dequeue => ⟨.up c.dequeue.2 under, life.ledger.give c.dequeue.1⟩
  | .up c under, .shutdown error => { life with site := .up (c.shutdown error).2 under }
  | .up c none, .stop =>
    { life with
      site := .down ((StopMove.bareHost (Faulty FileStores) π).tearDown 0 [] c).stores.stores.disk }
  | .up c _, .die => ⟨.down (MessageStores.release c.stores).stores.disk, life.ledger.bury⟩
  | _, _ => life

/-- **A run**: any events, one after another. -/
def run (path : String) (fold : Fold) (events : List (Event π)) (life : Life π) : Life π :=
  events.foldl (step path fold) life

end Life

/-! ## What the books say -/

/-- **The books come out even** with a snapshot, a history, oldest first, and what is pending. -/
structure Ledger.Accounts (l : Ledger) (fold : Fold) (snapshot : Snapshot)
    (entries pending : List Message) : Prop where
  digest : snapshot.digest = l.folded.foldl fold.step fold.initial
  applied : snapshot.applied = UInt64.ofNat l.folded.length
  history : entries.Sublist l.folded
  missing : l.folded.length = entries.length + l.failed + l.lost + l.owed.toNat
  enqueued : l.enqueued.Sublist l.folded
  pending : l.enqueued = l.given ++ pending

/-- What the books say of a handler call that stands at a point. -/
def Ledger.Matches (l : Ledger) (message : Message) (entries : List Message) : Handler.Point → Prop
  | .enqueue _ =>
    l.owed = true ∧ ∃ before, l.folded = before ++ [message] ∧ entries.Sublist before ∧
      l.enqueued.Sublist before
  | .push _ => l.owed = true ∧ ∃ before, l.folded = before ++ [message] ∧ entries.Sublist before
  | .escalate (.store _) | .note (.store _) => l.owed = true
  | _ => l.owed = false

/-- What the books say of a handler call under way, or of none. -/
def Ledger.MatchesUnder (l : Ledger) (entries : List Message) :
    Option (Handler.Call × Handler.Point) → Prop
  | none => l.owed = false
  | some (call, point) => point.result? = none ∧ l.Matches call.message entries point

namespace Life

variable {π : Type}

/-- **The books and the directory**, or the stores that are open on it, belong together. -/
def Sound (path : String) (here : Place) (fold : Fold) (life : Life π) : Prop :=
  match life.site with
  | .down disk => life.ledger.owed = false ∧ ∃ pending entries snapshot,
      FileStores.DirectorySays disk path here fold pending entries snapshot ∧
        life.ledger.Accounts fold snapshot entries pending
  | .up c under => ∃ pending entries snapshot,
      c.stores.stores.Says path here fold pending entries snapshot ∧
        life.ledger.Accounts fold snapshot entries pending ∧ life.ledger.MatchesUnder entries under

/-- Stores, books and a handler call that stands at a point belong together. -/
def Tallies (path : String) (here : Place) (fold : Fold) (message : Message) (l : Ledger)
    (point : Handler.Point) (c : FaultyCoordinator π) : Prop :=
  ∃ pending entries snapshot, c.stores.stores.Says path here fold pending entries snapshot ∧
    l.Accounts fold snapshot entries pending ∧ l.Matches message entries point

/-- They do so behind a move, which the books have seen. -/
def TalliesAfter (path : String) (here : Place) (fold : Fold) (message : Message) (l : Ledger)
    (point : Handler.Point) (next : Handler.Point × FaultyCoordinator π) : Prop :=
  Tallies path here fold message (l.move message point next.1) next.1 next.2

end Life

/-! ## One handler move -/

namespace Ledger

variable {l : Ledger} {fold : Fold} {snapshot : Snapshot} {entries pending : List Message}
  {message : Message}

theorem Accounts.folded (h : l.Accounts fold snapshot entries pending) (howed : l.owed = false)
    (message : Message) :
    Accounts { l with folded := l.folded ++ [message], owed := true } fold
      ⟨fold.step snapshot.digest message, snapshot.applied + 1⟩ entries pending := by
  refine ⟨?_, ?_, ?_, ?_, ?_, h.pending⟩
  · rw [List.foldl_append, ← h.digest]
    rfl
  · rw [List.length_append, h.applied, UInt64.ofNat_add]
    rfl
  · exact h.history.trans (List.sublist_append_left ..)
  · have hmissing := h.missing
    rw [howed] at hmissing
    simp only [List.length_append, List.length_singleton, Bool.toNat_true, Bool.toNat_false] at *
    omega
  · exact h.enqueued.trans (List.sublist_append_left ..)

theorem Accounts.enqueue (h : l.Accounts fold snapshot entries pending) {before : List Message}
    (hfolded : l.folded = before ++ [message]) (hbefore : l.enqueued.Sublist before) :
    Accounts { l with enqueued := l.enqueued ++ [message] } fold snapshot entries
      (pending ++ [message]) := by
  refine ⟨h.digest, h.applied, h.history, h.missing, ?_, ?_⟩
  · show (l.enqueued ++ [message]).Sublist l.folded
    rw [hfolded]
    exact hbefore.append_right [message]
  · show l.enqueued ++ [message] = l.given ++ (pending ++ [message])
    rw [h.pending, List.append_assoc]

theorem Accounts.push (h : l.Accounts fold snapshot entries pending) (howed : l.owed = true)
    {before : List Message} (hfolded : l.folded = before ++ [message])
    (hbefore : entries.Sublist before) :
    Accounts { l with owed := false } fold snapshot (entries ++ [message]) pending := by
  refine ⟨h.digest, h.applied, ?_, ?_, h.enqueued, h.pending⟩
  · show (entries ++ [message]).Sublist l.folded
    rw [hfolded]
    exact hbefore.append_right [message]
  · have hmissing := h.missing
    rw [howed] at hmissing
    simp only [List.length_append, List.length_singleton, Bool.toNat_true, Bool.toNat_false] at *
    omega

theorem Accounts.fail (h : l.Accounts fold snapshot entries pending) (howed : l.owed = true) :
    Accounts { l with failed := l.failed + 1, owed := false } fold snapshot entries pending := by
  refine ⟨h.digest, h.applied, h.history, ?_, h.enqueued, h.pending⟩
  have hmissing := h.missing
  rw [howed] at hmissing
  simp only [Bool.toNat_true, Bool.toNat_false] at *
  omega

theorem Accounts.bury (h : l.Accounts fold snapshot entries pending) :
    l.bury.Accounts fold snapshot entries pending := by
  refine ⟨h.digest, h.applied, h.history, ?_, h.enqueued, h.pending⟩
  have hmissing := h.missing
  simp only [Ledger.bury, Bool.toNat_false] at *
  omega

theorem Accounts.give (h : l.Accounts fold snapshot entries pending) {given : Option Message}
    (hgiven : given = pending.head?) :
    (l.give (.ok given)).Accounts fold snapshot entries pending.tail := by
  subst hgiven
  cases pending with
  | nil => exact h
  | cons head rest =>
    refine ⟨h.digest, h.applied, h.history, h.missing, h.enqueued, ?_⟩
    show l.enqueued = (l.given ++ [head]) ++ rest
    rw [h.pending, List.append_assoc]
    rfl

end Ledger

namespace Life

open Handler

variable {π : Type} [Policy π] {path : String} {here : Place} {fold : Fold} {snapshot : Snapshot}
  {entries pending : List Message} {c : FaultyCoordinator π} {l : Ledger} {call : Call} {point : Point}

theorem tallies_fold (h : Tallies path here fold call.message l .fold c) :
    TalliesAfter path here fold call.message l .fold (Handler.step call .fold c) := by
  obtain ⟨pending, entries, snapshot, hsaid, hbooks, howed⟩ := h
  have hends : Ends (MessageStores.fold call.message) c.stores _ _ :=
    Faulty.ends_run (hsaid.fold_ends call.message) hsaid .fold
  rcases hends.cases with ⟨digest, stores, hrun, hgood⟩ | ⟨e, stores, hrun, hbad⟩
  · rw [step_fold, hrun]
    refine ⟨pending, entries, _, hgood, ?_⟩
    have hbooks' := hbooks.folded howed call.message
    dsimp only [afterFold]
    cases call.origin with
    | «local» => exact ⟨hbooks', rfl, l.folded, rfl, hbooks.history, hbooks.enqueued⟩
    | remote => exact ⟨hbooks', rfl, l.folded, rfl, hbooks.history⟩
  · rw [step_fold, hrun]
    exact ⟨pending, entries, snapshot, hbad, hbooks, howed⟩

theorem tallies_enqueue {digest : Digest}
    (h : Tallies path here fold call.message l (.enqueue digest) c) :
    TalliesAfter path here fold call.message l (.enqueue digest)
      (Handler.step call (.enqueue digest) c) := by
  obtain ⟨pending, entries, snapshot, hsaid, hbooks, hmatches⟩ := h
  have hends : Ends (MessageStores.enqueue call.message) c.stores _ _ :=
    Faulty.ends_run (hsaid.enqueue_ends call.message) hsaid .enqueue
  obtain ⟨howed, before, hfolded, hentries, henqueued⟩ := hmatches
  rcases hends.cases with ⟨a, stores, hrun, hgood⟩ | ⟨e, stores, hrun, hbad⟩
  · rw [step_enqueue, hrun]
    have hbooks' := hbooks.enqueue hfolded henqueued
    exact ⟨_, entries, snapshot, hgood, hbooks', howed, before, hfolded, hentries⟩
  · rw [step_enqueue, hrun]
    exact ⟨pending, entries, snapshot, hbad, hbooks, howed⟩

theorem tallies_push {digest : Digest}
    (h : Tallies path here fold call.message l (.push digest) c) :
    TalliesAfter path here fold call.message l (.push digest)
      (Handler.step call (.push digest) c) := by
  obtain ⟨pending, entries, snapshot, hsaid, hbooks, hmatches⟩ := h
  have hends : Ends (MessageStores.push call.message) c.stores _ _ :=
    Faulty.ends_run (hsaid.push_ends call.message) hsaid .push
  obtain ⟨howed, before, hfolded, hentries⟩ := hmatches
  rcases hends.cases with ⟨a, stores, hrun, hgood⟩ | ⟨e, stores, hrun, hbad⟩
  · rw [step_push, hrun]
    exact ⟨pending, _, snapshot, hgood, hbooks.push howed hfolded hentries, rfl⟩
  · rw [step_push, hrun]
    exact ⟨pending, entries, snapshot, hbad, hbooks, howed⟩

/-- **A move of a handler call** keeps stores and books together. -/
theorem tallies_step (h : Tallies path here fold call.message l point c)
    (hleft : point.result? = none) :
    TalliesAfter path here fold call.message l point (Handler.step call point c) := by
  obtain ⟨pending, entries, snapshot, hsaid, hbooks, hmatches⟩ := id h
  cases point with
  | finished result => cases hleft
  | fold => exact tallies_fold h
  | enqueue => exact tallies_enqueue h
  | push => exact tallies_push h
  | check =>
    rw [step_check]
    refine ⟨pending, entries, snapshot, hsaid, ?_⟩
    dsimp only
    unfold afterCheck
    split
    · cases call.origin <;> exact ⟨hbooks, hmatches⟩
    · exact ⟨hbooks, hmatches⟩
  | consult =>
    obtain ⟨reader, hreader⟩ := hsaid.inDirectory.reader_ok
    rw [step_consult, show MessageStores.reader c.stores = .ok reader from hreader]
    refine ⟨pending, entries, snapshot, hsaid, ?_⟩
    dsimp only [afterConsult]
    split
    · exact ⟨hbooks, hmatches⟩
    · exact ⟨hbooks, hmatches⟩
  | process =>
    unfold Handler.step
    dsimp only
    refine ⟨pending, entries, snapshot, hsaid, ?_⟩
    split
    · exact ⟨hbooks, hmatches⟩
    · exact ⟨hbooks, hmatches⟩
  | escalate error =>
    unfold Handler.step
    refine ⟨pending, entries, snapshot, hsaid, ?_⟩
    dsimp only
    cases error with
    | store e =>
      split
      · exact ⟨hbooks, hmatches⟩
      · exact ⟨hbooks.fail hmatches, rfl⟩
    | _ => split <;> exact ⟨hbooks, hmatches⟩
  | note error =>
    refine ⟨pending, entries, snapshot, ?_, ?_⟩
    · rw [show (Handler.step call (.note error) c).2.stores = c.stores from c.stores_noteFatal]
      exact hsaid
    · cases error with
      | store e => exact ⟨hbooks.fail hmatches, rfl⟩
      | _ => exact ⟨hbooks, hmatches⟩

theorem matchesUnder_underWay (h : l.Matches call.message entries point) :
    l.MatchesUnder entries (underWay call point) := by
  cases point with
  | finished result => exact h
  | _ => exact ⟨rfl, h⟩

/-! ## Lives -/

omit [Policy π] in
theorem says_dequeue (hsaid : c.stores.stores.Says path here fold pending entries snapshot) :
    (c.dequeue.1 = .ok pending.head? ∧
        c.dequeue.2.stores.stores.Says path here fold pending.tail entries snapshot) ∨
      (∃ e, c.dequeue.1 = .error e) ∧
        c.dequeue.2.stores.stores.Says path here fold pending entries snapshot := by
  have hends : Ends MessageStores.dequeue c.stores _ _ :=
    Faulty.ends_run hsaid.dequeue_ends hsaid .dequeue
  rcases hends.cases with ⟨given, stores, hrun, hgiven, hsaid'⟩ | ⟨e, stores, hrun, hsaid'⟩
  · rw [Coordinator.dequeue_eq, hrun]
    subst hgiven
    exact .inl ⟨rfl, hsaid'⟩
  · rw [Coordinator.dequeue_eq, hrun]
    exact .inr ⟨⟨_, rfl⟩, hsaid'⟩

omit [Policy π] in
theorem accounts_dequeue (hsaid : c.stores.stores.Says path here fold pending entries snapshot)
    (hbooks : l.Accounts fold snapshot entries pending) :
    ∃ pending, c.dequeue.2.stores.stores.Says path here fold pending entries snapshot ∧
      (l.give c.dequeue.1).Accounts fold snapshot entries pending := by
  rcases says_dequeue hsaid with ⟨hgiven, hsaid'⟩ | ⟨⟨e, hfailed⟩, hsaid'⟩
  · rw [hgiven]
    exact ⟨_, hsaid', hbooks.give rfl⟩
  · rw [hfailed]
    exact ⟨pending, hsaid', hbooks⟩

theorem give_leaves (l : Ledger) (answer : Except CoordinatorError (Option Message)) :
    (l.give answer).folded = l.folded ∧ (l.give answer).enqueued = l.enqueued ∧
      (l.give answer).owed = l.owed ∧ (l.give answer).failed = l.failed ∧
      (l.give answer).lost = l.lost := by
  unfold Ledger.give
  split <;> exact ⟨rfl, rfl, rfl, rfl, rfl⟩

/-- Dequeues have nothing to do with the handler call under way. -/
theorem matchesUnder_give {under : Option (Call × Point)} (h : l.MatchesUnder entries under)
    (answer : Except CoordinatorError (Option Message)) :
    (l.give answer).MatchesUnder entries under := by
  obtain ⟨hfolded, henqueued, howed, -, -⟩ := give_leaves l answer
  unfold Ledger.MatchesUnder Ledger.Matches at *
  rw [hfolded, henqueued, howed]
  exact h

omit [Policy π] in
theorem directorySays_tearDown (h : c.stores.stores.Says path here fold pending entries snapshot) :
    FileStores.DirectorySays
      ((StopMove.bareHost (Faulty FileStores) π).tearDown 0 [] c).stores.stores.disk path here fold
      pending entries snapshot := by
  have hclosed := h.inDirectory.disk_close
  have hsaid := h.directorySays
  rw [← hclosed] at hsaid
  exact hsaid.release

/-- **One step** keeps stores and books together. -/
theorem sound_step {life : Life π} (h : life.Sound path here fold) (event : Event π) :
    (life.step path fold event).Sound path here fold := by
  obtain ⟨site, l⟩ := life
  cases site with
  | down disk =>
    cases event with
    | start config policy faults =>
      obtain ⟨howed, pending, entries, snapshot, hsaid, hbooks⟩ := h
      have hopen := FileStores.open_of_says { config with dataDirectory := path } hsaid
      unfold step
      dsimp only
      rcases hopen with ⟨stores, hrun, hsaid'⟩ | ⟨e, disk', hrun, hsaid'⟩
      · rw [hrun]
        exact ⟨pending, entries, snapshot, hsaid', hbooks, howed⟩
      · rw [hrun]
        exact ⟨howed, pending, entries, snapshot, hsaid', hbooks⟩
    | _ => exact h
  | up c under =>
    obtain ⟨pending, entries, snapshot, hsaid, hbooks, hunder⟩ := id h
    cases event with
    | start => exact h
    | ready =>
      refine ⟨pending, entries, snapshot, ?_, hbooks, hunder⟩
      unfold Coordinator.advance
      split <;> exact hsaid
    | call call =>
      cases under with
      | none => exact ⟨pending, entries, snapshot, hsaid, hbooks, rfl, hunder⟩
      | some => exact h
    | proceed =>
      cases under with
      | none => exact h
      | some p =>
        obtain ⟨call, point⟩ := p
        have htallies : Tallies path here fold call.message l point c :=
          ⟨pending, entries, snapshot, hsaid, hbooks, hunder.2⟩
        obtain ⟨pending', entries', snapshot', hsaid', hbooks', hmatches⟩ :=
          tallies_step htallies hunder.1
        exact ⟨pending', entries', snapshot', hsaid', hbooks', matchesUnder_underWay hmatches⟩
    | dequeue =>
      obtain ⟨pending', hsaid', hbooks'⟩ := accounts_dequeue hsaid hbooks
      exact ⟨pending', entries, snapshot, hsaid', hbooks', matchesUnder_give hunder _⟩
    | shutdown error =>
      refine ⟨pending, entries, snapshot, ?_, hbooks, hunder⟩
      rw [Coordinator.stores_shutdown]
      exact hsaid
    | stop =>
      cases under with
      | none => exact ⟨hunder, pending, entries, snapshot, directorySays_tearDown hsaid, hbooks⟩
      | some => exact h
    | die =>
      exact ⟨rfl, pending, entries, snapshot, hsaid.directorySays.release, hbooks.bury⟩

/-- **A whole run** keeps stores and books together. -/
theorem sound_run {life : Life π} (h : life.Sound path here fold) (events : List (Event π)) :
    (life.run path fold events).Sound path here fold := by
  unfold run
  induction events generalizing life with
  | nil => exact h
  | cons event events ih => exact ih (sound_step h event)

/-- **The books come out even** with what a directory says, or with the stores that are open on it,
whose history is read oldest first. With no handler call under way nothing is owed. -/
structure Related (path : String) (fold : Fold) (life : Life π) : Prop where
  down {disk : FileSystem} (h : life.site = .down disk) :
    life.ledger.owed = false ∧ ∃ here pending entries snapshot,
      FileStores.DirectorySays disk path here fold pending entries snapshot ∧
        life.ledger.Accounts fold snapshot entries pending
  up {c : FaultyCoordinator π} {under : Option (Call × Point)} (h : life.site = .up c under) :
    life.ledger.Accounts fold c.stores.stores.state.snapshot c.stores.stores.history.stack.reverse
        c.stores.stores.queue.pending ∧ (under = none → life.ledger.owed = false)

omit [Policy π] in
theorem Sound.related {life : Life π} (h : life.Sound path here fold) : life.Related path fold := by
  obtain ⟨site, l⟩ := life
  constructor
  · rintro disk rfl
    obtain ⟨howed, pending, entries, snapshot, hsaid, hbooks⟩ := h
    exact ⟨howed, here, pending, entries, snapshot, hsaid, hbooks⟩
  · rintro c under rfl
    obtain ⟨pending, entries, snapshot, hsaid, hbooks, hunder⟩ := h
    dsimp only
    rw [hsaid.inDirectory.stack_eq, hsaid.snapshot, hsaid.pending]
    refine ⟨hbooks, fun hnone => ?_⟩
    subst hnone
    exact hunder

/-- **The three stores stay related** over any run that begins with an empty data directory, whatever
the policies do, whatever calls on the stores fail, and wherever processes die. -/
theorem related_run {disk : FileSystem} (hdir : disk.isDirectory path = true)
    (hempty : ∀ here, disk.Leads path.toList here → ∀ name, disk.entry? (here ++ [name]) = none)
    (fold : Fold) (events : List (Event π)) :
    (run path fold events ⟨.down disk, {}⟩).Related path fold := by
  have hfits := fits_of_isDirectory hdir
  obtain ⟨here, hleads⟩ := (isDirectory_iff_leads hfits).1 hdir
  have hnone := hempty here hleads
  have hsaid : FileStores.DirectorySays disk path here fold [] [] ⟨fold.initial, 0⟩ :=
    ⟨hfits, hleads, tidy_of_empty hnone, .inl ⟨hnone _, rfl⟩, .inl ⟨hnone _, rfl⟩,
      .inl ⟨hnone _, rfl⟩, hnone _, hnone _⟩
  have hbooks : Ledger.Accounts {} fold ⟨fold.initial, 0⟩ [] [] :=
    ⟨rfl, rfl, .slnil, rfl, .slnil, rfl⟩
  have hstart : Sound path here fold (⟨.down disk, {}⟩ : Life π) :=
    ⟨rfl, [], [], _, hsaid, hbooks⟩
  exact (sound_run hstart events).related

/-- An empty directory to keep data in. -/
def emptyData : FileSystem := { names := .insert .empty ["data"] .directory }

/-- Two lives: a push fails in the first, and the second dies behind a fold. -/
def twoLives : List (Event RecordingPolicy) :=
  let message (id : UInt64) (origin : Origin) : Event RecordingPolicy := .call ⟨⟨⟨id⟩, []⟩, origin⟩
  [.start .standard {} (fun call n => if call = .push ∧ n = 1 then some (.corrupted "") else none),
    .ready, message 1 .local, .proceed, .proceed, .proceed, .proceed, .proceed, .dequeue,
    message 2 .remote, .proceed, .proceed, .proceed, .proceed, .proceed, .proceed, .proceed, .stop,
    .start .standard {} Faults.none, .ready, message 3 .local, .proceed, .proceed, .proceed, .die,
    .start .standard {} Faults.none]

/-- Three messages are folded and one of them reaches the history. -/
theorem related_run_twoLives :
    let life := run "/data" .sum twoLives ⟨.down emptyData, {}⟩
    life.Related "/data" .sum ∧ life.ledger.folded.map (·.id.value) = [1, 2, 3] ∧
      life.ledger.given.map (·.id.value) = [1] ∧ life.ledger.failed = 1 ∧ life.ledger.lost = 1 := by
  have hempty (here : Place) (hleads : emptyData.Leads "/data".toList here) (name : String) :
      emptyData.entry? (here ++ [name]) = none := by
    have hfollow : (emptyData.follow [] (Route.pieces "/data".toList)).toOption = some ["data"] := by
      decide +kernel
    rw [show emptyData.follow [] (Route.pieces "/data".toList) = .ok here from hleads] at hfollow
    cases hfollow
    rw [entry?_below, emptyData, Table.get?_insert, if_neg (by simp)]
    rfl
  exact ⟨related_run (by decide +kernel) hempty .sum twoLives, by decide +kernel⟩

end Life

end Replica
