/-
What a handler call does on its way, and what its result tells about it.

`Handler.deeds` lists what a call does besides checking the lifecycle state: it asks
the policy, lets it process the message, calls a store or offers an error to the
trigger. `Handler.Past` says at each point what lies behind the call. One move adds its
deeds to it (`past_step`), so it holds at the result, and there the result alone says
which deeds were done and what the stores hold (`report_tells`).
-/
import Replica.Proofs.Coordinator.Course
import Replica.Proofs.Coordinator.FileSeparation
import Replica.Proofs.Coordinator.Overlap
import Replica.Proofs.Coordinator.Says

namespace Replica

/-! ## What the stores hold -/

/-- What is pending, the history with its latest message on top, and how far the fold has come. -/
structure Holdings where
  pending : List Message
  stack : List Message
  snapshot : Snapshot
  deriving DecidableEq, Repr

namespace FileStores

def holdings (stores : FileStores) : Holdings :=
  ⟨stores.queue.pending, stores.history.stack, stores.state.snapshot⟩

/-- Whether the stores are open in some directory. -/
def IsOpen (stores : FileStores) : Prop := ∃ path here entries, stores.InDirectory path here entries

variable {stores : FileStores}

theorem IsOpen.reader_ok (h : stores.IsOpen) : ∃ reader, MessageStores.reader stores = .ok reader := by
  obtain ⟨path, here, entries, hthere⟩ := h
  exact hthere.reader_ok

theorem IsOpen.fold_ends (h : stores.IsOpen) (message : Message) :
    Ends (MessageStores.fold message) stores
      (fun digest stores' => stores'.IsOpen ∧ digest = (stores.state.next message).digest ∧
        stores'.holdings = { stores.holdings with snapshot := stores.state.next message })
      fun stores' => stores'.IsOpen ∧ stores'.holdings = stores.holdings := by
  obtain ⟨path, here, entries, hthere⟩ := h
  unfold Ends
  rcases hthere.fold_cases message with ⟨hfits, hrun⟩ | ⟨-, e, hrun⟩
  · rw [hrun]
    exact ⟨⟨path, here, entries, (hthere.withFold message hfits).1⟩, rfl, rfl⟩
  · rw [hrun]
    exact ⟨⟨path, here, entries, hthere⟩, rfl⟩

theorem IsOpen.enqueue_ends (h : stores.IsOpen) (message : Message) :
    Ends (MessageStores.enqueue message) stores
      (fun _ stores' => stores'.IsOpen ∧
        stores'.holdings = { stores.holdings with pending := stores.holdings.pending ++ [message] })
      fun stores' => stores'.IsOpen ∧ stores'.holdings = stores.holdings := by
  obtain ⟨path, here, entries, hthere⟩ := h
  unfold Ends
  obtain ⟨queue, disk, hthere', -, ⟨hrun, hpending⟩ | ⟨e, -, hrun, hpending⟩⟩ :=
    hthere.enqueue_cases message
  · rw [hrun]
    exact ⟨⟨path, here, entries, hthere'⟩, congrArg (Holdings.mk · _ _) hpending⟩
  · rw [hrun]
    exact ⟨⟨path, here, entries, hthere'⟩, congrArg (Holdings.mk · _ _) hpending⟩

theorem IsOpen.push_ends (h : stores.IsOpen) (message : Message) :
    Ends (MessageStores.push message) stores
      (fun _ stores' => stores'.IsOpen ∧
        stores'.holdings = { stores.holdings with stack := message :: stores.holdings.stack })
      fun stores' => stores'.IsOpen ∧ stores'.holdings = stores.holdings := by
  obtain ⟨path, here, entries, hthere⟩ := h
  have hstack := hthere.stack_eq
  unfold Ends
  obtain ⟨history, disk, -, ⟨hrun, hthere'⟩ | ⟨e, -, hrun, hthere'⟩⟩ := hthere.push_cases message
  · have hpushed : history.stack = message :: stores.history.stack := by
      have hstack' : history.stack.reverse = entries ++ [message] := hthere'.stack_eq
      rw [← hstack] at hstack'
      rw [← List.reverse_reverse history.stack, hstack']
      simp
    rw [hrun]
    exact ⟨⟨path, here, _, hthere'⟩, congrArg (Holdings.mk _ · _) hpushed⟩
  · have hsame : history.stack = stores.history.stack := by
      have hstack' : history.stack.reverse = entries := hthere'.stack_eq
      exact List.reverse_inj.1 (hstack'.trans hstack.symm)
    rw [hrun]
    exact ⟨⟨path, here, entries, hthere'⟩, congrArg (Holdings.mk _ · _) hsame⟩

end FileStores

namespace Handler

/-! ## Deeds -/

/-- What a call may do on its way, and what came of it. -/
inductive Deed
  /-- Asked the policy whether a message is wanted. -/
  | asked (wanted : Bool)
  /-- Let the policy process the message. -/
  | processed (failure : Option String)
  /-- Called a store. -/
  | stored (call : StoreCall) (failure : Option StoreError)
  /-- Offered an error to the trigger. -/
  | offered (error : CoordinatorError)
  deriving DecidableEq, Repr

/-- The failure, if it is one. -/
def failure? {ε α : Type} : Except ε α → Option ε
  | .ok _ => none
  | .error e => some e

section

variable {σ π : Type} [MessageStores σ] [Policy π]

/-- What the move from a point does. -/
def Point.deeds (call : Call) (c : Coordinator σ π) : Point → List Deed
  | .consult =>
    match MessageStores.reader c.stores with
    | .ok reader => [.asked (Policy.shouldProcess call.message reader c.policy).1]
    | .error _ => []
  | .process => [.processed (failure? (Policy.process call.message call.origin c.policy).1)]
  | .fold => [.stored .fold (failure? (outcome (MessageStores.fold call.message) c.stores).1)]
  | .enqueue _ =>
    [.stored .enqueue (failure? (outcome (MessageStores.enqueue call.message) c.stores).1)]
  | .push _ => [.stored .push (failure? (outcome (MessageStores.push call.message) c.stores).1)]
  | .escalate error => [.offered error]
  | .check | .note _ | .finished _ => []

/-- What a call does from a point to its result. -/
def deeds (call : Call) (point : Point) (c : Coordinator σ π) : List Deed :=
  match _h : point.result? with
  | some _ => []
  | none =>
    point.deeds call c ++ deeds call (step call point c).1 (step call point c).2
termination_by point.rank
decreasing_by exact rank_step_lt call point c _h

/-- A result, the deeds on the way to it, and the coordinator they leave. -/
structure Report (σ π : Type) where
  result : Except CoordinatorError Outcome
  deeds : List Deed
  coordinator : Coordinator σ π

/-- What comes of a call from a point on. -/
def report (call : Call) (point : Point) (c : Coordinator σ π) : Report σ π :=
  ⟨(run call point c).1, deeds call point c, (run call point c).2⟩

/-- The same report with deeds in front. -/
def Report.behind (before : List Deed) (report : Report σ π) : Report σ π :=
  { report with deeds := before ++ report.deeds }

variable {call : Call} {point : Point} {c : Coordinator σ π}

theorem report_finished (result : Except CoordinatorError Outcome) :
    report call (.finished result) c = ⟨result, [], c⟩ := by
  have hrun : run call (.finished result) c = (result, c) := by
    unfold run
    rfl
  have hdeeds : deeds call (.finished result) c = [] := by
    unfold deeds
    rfl
  rw [report, hrun, hdeeds]

theorem report_of_left (hleft : point.result? = none) :
    report call point c =
      (report call (step call point c).1 (step call point c).2).behind (point.deeds call c) := by
  have hdeeds : deeds call point c =
      point.deeds call c ++ deeds call (step call point c).1 (step call point c).2 := by
    conv => lhs; unfold deeds
    split
    · rename_i result hresult
      rw [hleft] at hresult
      cases hresult
    · rfl
  rw [report, run_of_left call c hleft, hdeeds]
  rfl

end

/-! ## What lies behind a call -/

/-- What a call asks the policy before it processes the message. -/
def Call.asks (call : Call) : List Deed :=
  match call.origin with
  | .local => []
  | .remote => [.asked true]

/-- What a call does to queue the message for delivery. -/
def Call.enqueues (call : Call) : List Deed :=
  match call.origin with
  | .local => [.stored .enqueue none]
  | .remote => []

/-- What a call adds to what is pending. -/
def Call.queued (call : Call) : List Message :=
  match call.origin with
  | .local => [call.message]
  | .remote => []

/-- What the stores of a coordinator hold. -/
def held {π : Type} (c : Coordinator (Faulty FileStores) π) : Holdings := c.stores.stores.holdings

/-- The snapshot behind the call's message. -/
def next {π : Type} (call : Call) (c : Coordinator (Faulty FileStores) π) : Snapshot :=
  c.stores.stores.state.next call.message

/-- The policy when it has been asked about the message of a call, if that came from a peer. -/
def consulted {π : Type} [Policy π] (call : Call) (c : Coordinator (Faulty FileStores) π) : π :=
  match call.origin with
  | .local => c.policy
  | .remote => (afterConsult call c.policy (MessageStores.reader c.stores)).2

/-- The policy when it has processed the message of a call, once. -/
def processed {π : Type} [Policy π] (call : Call) (c : Coordinator (Faulty FileStores) π) : π :=
  (Policy.process call.message call.origin (consulted call c)).2

variable {π : Type}

/-- Messages are accepted, the stores are open, neither the trigger nor the state has been touched,
and this is what has become of the policy. -/
structure Quiet (start : Coordinator (Faulty FileStores) π) (policy : π)
    (c : Coordinator (Faulty FileStores) π) : Prop where
  accepts : start.state.acceptsMessages = true
  isOpen : c.stores.stores.IsOpen
  trigger : c.trigger = start.trigger
  state : c.state = start.state
  policy : c.policy = policy

/-- **What a call that fails has done** before it offers its error, and what the stores hold then. -/
def Fails (call : Call) (start c : Coordinator (Faulty FileStores) π) (done : List Deed) :
    CoordinatorError → Prop
  | .policy id text =>
    id = call.message.id ∧ done = call.asks ++ [.processed (some text)] ∧ held c = held start
  | .fold id cause =>
    id = call.message.id ∧ done = call.asks ++ [.processed none, .stored .fold (some cause)] ∧
      held c = held start
  | .store cause =>
    (call.origin = .local ∧
      done = call.asks ++ [.processed none, .stored .fold none] ++ [.stored .enqueue (some cause)] ∧
      held c = { held start with snapshot := next call start }) ∨
    (done = call.asks ++ [.processed none, .stored .fold none] ++ call.enqueues ++
        [.stored .push (some cause)] ∧
      held c = { held start with
        pending := (held start).pending ++ call.queued
        snapshot := next call start })
  | _ => False

/-- After a failed store call the digest has advanced by the message and the history has not. -/
theorem Fails.advances {call : Call} {start c : Coordinator (Faulty FileStores) π} {done : List Deed}
    {cause : StoreError} (h : Fails call start c done (.store cause)) :
    (held c).snapshot = next call start ∧ (held c).stack = (held start).stack := by
  rcases h with ⟨-, -, hheld⟩ | ⟨-, hheld⟩ <;> exact ⟨by rw [hheld], by rw [hheld]⟩

/-- **What an error that was offered comes to**: the first makes the state that of a fatal shutdown, a
later one changes nothing. -/
def Shuts (start c : Coordinator (Faulty FileStores) π) (error : CoordinatorError) : Prop :=
  (start.isShuttingDown = false → c.trigger.reason = some (.fatal error) ∧ c.state = .fatalShutdown) ∧
    (start.isShuttingDown = true → c.trigger = start.trigger ∧ c.state = start.state)

variable [Policy π]

/-- **What the result of a call tells**: what the call has done, and what has become of the
coordinator. -/
def Report.Tells (call : Call) (start : Coordinator (Faulty FileStores) π)
    (report : Report (Faulty FileStores) π) : Prop :=
  match report.result with
  | .error (.notRunning state) =>
    state = start.state ∧ state.acceptsMessages = false ∧ report.deeds = [] ∧
      report.coordinator = start
  | .ok .skipped =>
    call.origin = .remote ∧ report.deeds = [.asked false] ∧
      ∃ reader, MessageStores.reader start.stores = .ok reader ∧
        report.coordinator =
          { start with policy := (Policy.shouldProcess call.message reader start.policy).2 }
  | .ok (.applied digest) =>
    report.deeds = call.asks ++ [.processed none, .stored .fold none] ++ call.enqueues ++
        [.stored .push none] ∧
      digest = (next call start).digest ∧
      held report.coordinator = {
        pending := (held start).pending ++ call.queued
        stack := call.message :: (held start).stack
        snapshot := next call start } ∧
      report.coordinator.policy = processed call start ∧
      report.coordinator.trigger = start.trigger ∧ report.coordinator.state = start.state
  | .error error =>
    ∃ done, report.deeds = done ++ [.offered error] ∧
      Fails call start report.coordinator done error ∧
      report.coordinator.policy = processed call start ∧ Shuts start report.coordinator error

/-- **What lies behind a call** at a point: the deeds done so far, and the coordinator. -/
def Past (call : Call) (start c : Coordinator (Faulty FileStores) π) (done : List Deed) :
    Point → Prop
  | .check => done = [] ∧ c = start
  | .consult => Quiet start start.policy c ∧ call.origin = .remote ∧ done = [] ∧ c = start
  | .process => Quiet start (consulted call start) c ∧ done = call.asks ∧ c.stores = start.stores
  | .fold =>
    Quiet start (processed call start) c ∧ done = call.asks ++ [.processed none] ∧
      c.stores = start.stores
  | .enqueue digest =>
    Quiet start (processed call start) c ∧ call.origin = .local ∧
      done = call.asks ++ [.processed none, .stored .fold none] ∧
      digest = (next call start).digest ∧
      held c = { held start with snapshot := next call start }
  | .push digest =>
    Quiet start (processed call start) c ∧
      done = call.asks ++ [.processed none, .stored .fold none] ++ call.enqueues ∧
      digest = (next call start).digest ∧
      held c = { held start with
        pending := (held start).pending ++ call.queued
        snapshot := next call start }
  | .escalate error => Quiet start (processed call start) c ∧ Fails call start c done error
  | .note error =>
    (∃ before, done = before ++ [.offered error] ∧ Fails call start c before error) ∧
      c.policy = processed call start ∧ start.isShuttingDown = false ∧ c.trigger.reason = some (.fatal error) ∧
      c.state.mayRun = true
  | .finished result => Report.Tells call start ⟨result, done, c⟩

/-! ## One move -/

variable {call : Call} {start c : Coordinator (Faulty FileStores) π} {done : List Deed}

theorem Call.asks_of_local (h : call.origin = .local) : call.asks = [] := by rw [asks, h]

omit [Policy π] in
theorem Quiet.withStores {policy : π} (h : Quiet start policy c) {stores : Faulty FileStores}
    (hopen : stores.stores.IsOpen) : Quiet start policy { c with stores } :=
  ⟨h.accepts, hopen, h.trigger, h.state, h.policy⟩

omit [Policy π] in
theorem Quiet.withPolicy {before policy : π} (h : Quiet start before c) :
    Quiet start policy { c with policy } :=
  ⟨h.accepts, h.isOpen, h.trigger, h.state, rfl⟩

theorem past_check (hopen : start.state.acceptsMessages = true → start.stores.stores.IsOpen)
    (h : Past call start c done .check) :
    Past call start (step call .check c).2 (done ++ Point.check.deeds call c)
      (step call .check c).1 := by
  obtain ⟨rfl, rfl⟩ := h
  rw [step_check]
  cases haccepts : c.state.acceptsMessages with
  | false =>
    rw [afterCheck, haccepts]
    exact ⟨rfl, haccepts, rfl, rfl⟩
  | true =>
    rw [afterCheck, haccepts]
    cases horigin : call.origin with
    | «local» =>
      refine ⟨⟨haccepts, hopen haccepts, rfl, rfl, ?_⟩, (Call.asks_of_local horigin).symm, rfl⟩
      rw [consulted, horigin]
    | remote => exact ⟨⟨haccepts, hopen haccepts, rfl, rfl, rfl⟩, horigin, rfl, rfl⟩

theorem past_consult (h : Past call start c done .consult) :
    Past call start (step call .consult c).2 (done ++ Point.consult.deeds call c)
      (step call .consult c).1 := by
  obtain ⟨hquiet, horigin, rfl, rfl⟩ := h
  obtain ⟨reader, hreader⟩ := hquiet.isOpen.reader_ok
  have hreads : MessageStores.reader c.stores = .ok reader := hreader
  rw [step_consult, Point.deeds, hreads]
  dsimp only [afterConsult]
  cases hwanted : (Policy.shouldProcess call.message reader c.policy).1 with
  | false => exact ⟨horigin, rfl, reader, hreads, rfl⟩
  | true =>
    have hpolicy : consulted call c = (Policy.shouldProcess call.message reader c.policy).2 := by
      rw [consulted, horigin, hreads]
      rfl
    refine ⟨hpolicy ▸ hquiet.withPolicy, ?_, rfl⟩
    rw [Call.asks, horigin]
    rfl

theorem past_process (h : Past call start c done .process) :
    Past call start (step call .process c).2 (done ++ Point.process.deeds call c)
      (step call .process c).1 := by
  obtain ⟨hquiet, rfl, hstores⟩ := h
  unfold step
  dsimp only
  rw [Point.deeds, hquiet.policy]
  cases (Policy.process call.message call.origin (consulted call start)).1 with
  | ok => exact ⟨hquiet.withPolicy, rfl, hstores⟩
  | error text => exact ⟨hquiet.withPolicy, rfl, rfl, congrArg (·.stores.holdings) hstores⟩

theorem past_fold (h : Past call start c done .fold) :
    Past call start (step call .fold c).2 (done ++ Point.fold.deeds call c)
      (step call .fold c).1 := by
  obtain ⟨hquiet, rfl, hstores⟩ := h
  have hends := Faulty.ends_run (hquiet.isOpen.fold_ends call.message) ⟨hquiet.isOpen, rfl⟩ .fold
  have hheld : c.stores.stores.holdings = held start := congrArg (·.stores.holdings) hstores
  have hnext : c.stores.stores.state.next call.message = next call start :=
    congrArg (·.stores.state.next call.message) hstores
  rw [step_fold, Point.deeds]
  rcases hends.cases with ⟨digest, stores, hrun, hopen, hdigest, hafter⟩ | ⟨e, stores, hrun, hopen, hafter⟩
  · rw [show outcome (MessageStores.fold call.message) c.stores = _ from hrun]
    rw [hheld, hnext] at hafter
    rw [hnext] at hdigest
    have hquiet' := hquiet.withStores hopen
    dsimp only [afterFold, failure?]
    rw [List.append_assoc]
    cases horigin : call.origin with
    | «local» => exact ⟨hquiet', horigin, rfl, hdigest, hafter⟩
    | remote =>
      refine ⟨hquiet', ?_, hdigest, ?_⟩
      · rw [Call.enqueues, horigin]
        exact (List.append_nil _).symm
      · rw [Call.queued, horigin, List.append_nil]
        exact hafter
  · rw [show outcome (MessageStores.fold call.message) c.stores = _ from hrun]
    refine ⟨hquiet.withStores hopen, rfl, ?_, hafter.trans hheld⟩
    rw [List.append_assoc]
    rfl

theorem past_enqueue {digest : Digest} (h : Past call start c done (.enqueue digest)) :
    Past call start (step call (.enqueue digest) c).2 (done ++ (Point.enqueue digest).deeds call c)
      (step call (.enqueue digest) c).1 := by
  obtain ⟨hquiet, horigin, rfl, hdigest, hheld⟩ := h
  have hends := Faulty.ends_run (hquiet.isOpen.enqueue_ends call.message) ⟨hquiet.isOpen, rfl⟩ .enqueue
  rw [step_enqueue, Point.deeds]
  rcases hends.cases with ⟨u, stores, hrun, hopen, hafter⟩ | ⟨e, stores, hrun, hopen, hafter⟩
  · rw [show outcome (MessageStores.enqueue call.message) c.stores = _ from hrun]
    rw [show c.stores.stores.holdings = _ from hheld] at hafter
    refine ⟨hquiet.withStores hopen, ?_, hdigest, ?_⟩
    · rw [Call.enqueues, horigin]
      rfl
    · rw [Call.queued, horigin]
      exact hafter
  · rw [show outcome (MessageStores.enqueue call.message) c.stores = _ from hrun]
    exact ⟨hquiet.withStores hopen, .inl ⟨horigin, rfl, hafter.trans hheld⟩⟩

theorem past_push {digest : Digest} (h : Past call start c done (.push digest)) :
    Past call start (step call (.push digest) c).2 (done ++ (Point.push digest).deeds call c)
      (step call (.push digest) c).1 := by
  obtain ⟨hquiet, rfl, hdigest, hheld⟩ := h
  have hends := Faulty.ends_run (hquiet.isOpen.push_ends call.message) ⟨hquiet.isOpen, rfl⟩ .push
  rw [step_push, Point.deeds]
  rcases hends.cases with ⟨u, stores, hrun, -, hafter⟩ | ⟨e, stores, hrun, hopen, hafter⟩
  · rw [show outcome (MessageStores.push call.message) c.stores = _ from hrun]
    rw [show c.stores.stores.holdings = _ from hheld] at hafter
    exact ⟨rfl, hdigest, hafter, hquiet.policy, hquiet.trigger, hquiet.state⟩
  · rw [show outcome (MessageStores.push call.message) c.stores = _ from hrun]
    exact ⟨hquiet.withStores hopen, .inr ⟨rfl, hafter.trans hheld⟩⟩

theorem tells_of_fails {error : CoordinatorError} (hfails : Fails call start c done error)
    (hpolicy : c.policy = processed call start) (hshuts : Shuts start c error) :
    Report.Tells call start ⟨.error error, done ++ [.offered error], c⟩ := by
  cases error with
  | store | policy | fold => exact ⟨done, rfl, hfails, hpolicy, hshuts⟩
  | _ => cases hfails

theorem past_escalate {error : CoordinatorError} (h : Past call start c done (.escalate error)) :
    Past call start (step call (.escalate error) c).2
      (done ++ (Point.escalate error).deeds call c) (step call (.escalate error) c).1 := by
  obtain ⟨hquiet, hfails⟩ := h
  have hsame : c.isShuttingDown = start.isShuttingDown := congrArg Trigger.isFired hquiet.trigger
  have hstep : step call (.escalate error) c =
      (if (c.offer error).1 then .note error else .finished (.error error), (c.offer error).2) := rfl
  rw [hstep]
  rcases c.offer_cases error with ⟨hfired, hoffer⟩ | ⟨harmed, haccepted, -, hstate⟩
  · rw [hoffer]
    refine tells_of_fails hfails hquiet.policy
      ⟨fun harmed => ?_, fun _ => ⟨hquiet.trigger, hquiet.state⟩⟩
    rw [hsame, harmed] at hfired
    cases hfired
  · rw [if_pos haccepted]
    refine ⟨⟨done, rfl, hfails⟩, hquiet.policy, hsame.symm.trans harmed,
      Trigger.reason_of_fire haccepted, ?_⟩
    rw [hstate, hquiet.state]
    have haccepts := hquiet.accepts
    simp only [Lifecycle.acceptsMessages, decide_eq_true_eq] at haccepts
    rw [haccepts]
    rfl

theorem past_note {error : CoordinatorError} (h : Past call start c done (.note error)) :
    Past call start (step call (.note error) c).2 (done ++ (Point.note error).deeds call c)
      (step call (.note error) c).1 := by
  obtain ⟨⟨before, rfl, hfails⟩, hpolicy, harmed, hreason, hruns⟩ := h
  have hstate : c.noteFatal.state = .fatalShutdown := by
    simp only [Lifecycle.mayRun, Bool.or_eq_true, decide_eq_true_eq] at hruns
    rw [Coordinator.noteFatal, if_pos hruns]
  have hfails' : Fails call start c.noteFatal before error := by
    have hheld : held c.noteFatal = held c := by rw [held, held, Coordinator.stores_noteFatal]
    unfold Fails at hfails ⊢
    rwa [hheld]
  show Report.Tells call start ⟨.error error, before ++ [.offered error] ++ [], c.noteFatal⟩
  rw [List.append_nil]
  refine tells_of_fails hfails' ?_ ⟨fun _ => ⟨?_, hstate⟩, fun hfired => ?_⟩
  · rw [Coordinator.policy_noteFatal]
    exact hpolicy
  · rw [Coordinator.trigger_noteFatal]
    exact hreason
  · rw [harmed] at hfired
    cases hfired

/-- **One move** adds its deeds to what lies behind the call. -/
theorem past_step (hopen : start.state.acceptsMessages = true → start.stores.stores.IsOpen)
    {point : Point} (hleft : point.result? = none) (h : Past call start c done point) :
    Past call start (step call point c).2 (done ++ point.deeds call c) (step call point c).1 := by
  cases point with
  | check => exact past_check hopen h
  | consult => exact past_consult h
  | process => exact past_process h
  | fold => exact past_fold h
  | enqueue => exact past_enqueue h
  | push => exact past_push h
  | escalate => exact past_escalate h
  | note => exact past_note h
  | finished => cases hleft

/-! ## The whole call -/

/-- From every point on, the report tells what lies behind the call in the end. -/
theorem tells_of_past {c : Coordinator (Faulty FileStores) π} {done : List Deed} {point : Point}
    (hopen : start.state.acceptsMessages = true → start.stores.stores.IsOpen)
    (h : Past call start c done point) :
    ((report call point c).behind done).Tells call start := by
  cases hresult : point.result? with
  | some result =>
    cases point with
    | finished result =>
      rw [report_finished, Report.behind, List.append_nil]
      exact h
    | _ => cases hresult
  | none =>
    have hlt := rank_step_lt call point c hresult
    have hnext := tells_of_past hopen (past_step hopen hresult h)
    rw [report_of_left hresult]
    simpa only [Report.behind, List.append_assoc] using hnext
termination_by point.rank

/-- **The result of a call tells what it did**, where the stores are open if messages are accepted. -/
theorem report_tells (hopen : start.state.acceptsMessages = true → start.stores.stores.IsOpen)
    (call : Call) : (report call .check start).Tells call start :=
  tells_of_past hopen (show Past call start start [] .check from ⟨rfl, rfl⟩)

end Handler
end Replica
