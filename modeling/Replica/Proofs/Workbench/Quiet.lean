/-
Steps that start no coordinator.

Files, stores, locks and loops are changed without anything being written into the journal,
and without a node or a loop getting anything to do (`Silent`). A step on a node whose
handle leads nowhere does nothing at all. So where no loop was started and a node has no
coordinator, nothing is recorded until a coordinator is started or called on another node
(`silent_after`).
-/
import Replica.Workbench.Run

namespace Replica.Workbench

/-- **Nothing was recorded**, and nodes and loops have nothing new to do. -/
structure Silent (w w' : Workbench) : Prop where
  events : w'.events = w.events
  nodes : w'.nodes = w.nodes
  turns : w'.turns = w.turns

variable {w w' w'' : Workbench}

theorem Silent.refl (w : Workbench) : Silent w w := ⟨rfl, rfl, rfl⟩

theorem Silent.trans (h : Silent w w') (h' : Silent w' w'') : Silent w w'' :=
  ⟨h'.events.trans h.events, h'.nodes.trans h.nodes, h'.turns.trans h.turns⟩

theorem silent_world (world : World) (w : Workbench) : Silent w { w with world } := ⟨rfl, rfl, rfl⟩

/-! ## Places on the bench -/

section Slots

variable {τ ε α : Type} {slot : Slot τ}

/-- A place of which nothing else on the bench knows. -/
def Slot.IsApart (slot : Slot τ) : Prop := ∀ thing w, Silent w (slot.put thing w)

theorem silent_act (hslot : slot.IsApart) (wrap : ε → Failure) (reply : α → Reply)
    (action : EStateM ε (τ × World) α) (w : Workbench) :
    Silent w (slot.act wrap reply action w).2 := by
  unfold Slot.act
  split
  · exact .refl w
  · split
    · exact (silent_world _ w).trans (hslot _ _)
    · exact (silent_world _ w).trans (hslot _ _)

theorem silent_look (slot : Slot τ) (reply : τ → World → Reply) (w : Workbench) :
    Silent w (slot.look reply w).2 := by
  unfold Slot.look
  split <;> exact .refl w

theorem silent_fill (hslot : slot.IsApart) (wrap : ε → Failure) (reply : τ → α → Reply)
    (opening : EStateM ε World (τ × α)) (w : Workbench) :
    Silent w (slot.fill wrap reply opening w).2 := by
  unfold Slot.fill
  dsimp only
  split
  · exact (hslot none w).trans ((silent_world _ _).trans (hslot _ _))
  · exact (hslot none w).trans (silent_world _ _)

theorem silent_onDisk (wrap : ε → Failure) (reply : α → Reply) (act : EStateM ε FileSystem α)
    (w : Workbench) : Silent w (onDisk wrap reply act w).2 := by
  unfold onDisk
  split <;> exact silent_world _ w

theorem silent_openOver (hslot : slot.IsApart) (wrap : ε → Failure) (reply : τ → α → Reply)
    (source : Source) (overFile : String → EStateM ε World (τ × α))
    (overDevice : EStateM ε (Device × World) (τ × α)) (w : Workbench) :
    Silent w (openOver slot wrap reply source overFile overDevice w).2 := by
  unfold openOver
  cases source with
  | file path => exact silent_fill hslot ..
  | memory data plan =>
    have hopened : Silent (slot.put none w) (openMemory data plan (slot.put none w)).2 := ⟨rfl, rfl, rfl⟩
    exact (hslot none w).trans (hopened.trans (silent_fill hslot ..))

end Slots

theorem isApart_memorySlot : memorySlot.IsApart := fun _ _ => ⟨rfl, rfl, rfl⟩

theorem isApart_fileSlot : fileSlot.IsApart := fun _ _ => ⟨rfl, rfl, rfl⟩

theorem isApart_logSlot : logSlot.IsApart := fun _ _ => ⟨rfl, rfl, rfl⟩

theorem isApart_queueSlot : queueSlot.IsApart := fun _ _ => ⟨rfl, rfl, rfl⟩

theorem isApart_historySlot : historySlot.IsApart := fun _ _ => ⟨rfl, rfl, rfl⟩

theorem isApart_stateSlot : stateSlot.IsApart := fun _ _ => ⟨rfl, rfl, rfl⟩

/-! ## Files and stores -/

theorem silent_fileStep (s : FileStep) (w : Workbench) : Silent w (fileStep s w).2 := by
  cases s with
  | read path => exact .refl w
  | _ => exact silent_onDisk ..

theorem silent_logStep (s : LogStep) (w : Workbench) : Silent w (logStep s w).2 := by
  cases s with
  | «open» source format syncOnWrite => exact silent_openOver isApart_logSlot ..
  | size => exact silent_look ..
  | _ => exact silent_act isApart_logSlot ..

theorem silent_queueStep (s : QueueStep) (w : Workbench) : Silent w (queueStep s w).2 := by
  cases s with
  | «open» source options => exact silent_openOver isApart_queueSlot ..
  | peek | snapshot | info => exact silent_look ..
  | _ => exact silent_act isApart_queueSlot ..

theorem silent_historyStep (s : HistoryStep) (w : Workbench) : Silent w (historyStep s w).2 := by
  cases s with
  | «open» source options => exact silent_openOver isApart_historySlot ..
  | read | info => exact silent_look ..
  | _ => exact silent_act isApart_historySlot ..

theorem silent_stateStep (s : StateStep) (w : Workbench) : Silent w (stateStep s w).2 := by
  cases s with
  | «open» path fold => exact silent_fill isApart_stateSlot ..
  | read path => exact .refl w
  | digest | snapshot | isClosed => exact silent_look ..
  | _ => exact silent_act isApart_stateSlot ..

theorem silent_dropLock (slot : String) (w : Workbench) : Silent w (dropLock slot w).2 := by
  unfold dropLock
  split
  · exact .refl w
  · exact ⟨rfl, rfl, rfl⟩

theorem silent_lockStep (s : LockStep) (w : Workbench) : Silent w (lockStep s w).2 := by
  cases s with
  | «open» slot path createIfMissing =>
    simp only [lockStep]
    split
    · exact ⟨rfl, rfl, rfl⟩
    · rename_i directory disk _
      have hdrop := silent_dropLock slot (w.withDisk disk)
      exact ⟨hdrop.events, hdrop.nodes, hdrop.turns⟩
  | drop slot => exact silent_dropLock slot w

/-! ## Members -/

theorem silent_onCoordinator {α : Type} (number : Nat) (otherwise : α)
    (change : Coordinator FileStores RecordingPolicy → α × Coordinator FileStores RecordingPolicy)
    (w : Workbench) : Silent w (onCoordinator number otherwise change w).2 := by
  simp only [onCoordinator, onMember]
  split
  · exact .refl w
  · exact ⟨rfl, rfl, rfl⟩

theorem silent_discardModules (modules : List Module) (w : Workbench) :
    Silent w (discardModules modules w) := by
  induction modules generalizing w with
  | nil => exact .refl w
  | cons m rest ih =>
    simp only [discardModules, List.foldl_cons] at ih ⊢
    cases m with
    | recording plan | script plan => exact ih w
    | loopback name loop target =>
      have hdiscard : Silent w (discardLoop loop w) := ⟨rfl, rfl, rfl⟩
      exact hdiscard.trans (ih _)

theorem silent_disown (number : Nat) (w : Workbench) : Silent w (disown number w) := by
  have hreleased (w : Workbench) : Silent w (releaseUnheld number w) := by
    unfold releaseUnheld
    split
    · exact .refl w
    · exact silent_onCoordinator ..
  have hunowned : Silent w (stopLoopsOf number { w with
      members := w.members.modify number fun m => { m with isOwned := false, signals := [] } }) :=
    ⟨rfl, rfl, rfl⟩
  exact (hunowned.trans (silent_discardModules _ _)).trans (hreleased _)

/-! ## Loops and time -/

theorem settleNow_of_turns (h : w.turns = []) : settleNow w = w := by
  simp only [settleNow, h, rounds, round, List.foldl_nil]

theorem silent_sleep (h : w.turns = []) (milliseconds : Nat) : Silent w (sleep milliseconds w) := by
  induction milliseconds generalizing w with
  | zero => exact .refl w
  | succ n ih =>
    rw [sleep, settleNow_of_turns h]
    have htick : Silent w (tick w) := ⟨rfl, rfl, rfl⟩
    exact htick.trans (ih h)

theorem silent_waitFor (h : w.turns = []) (holds : Workbench → Bool) (looks : Nat) :
    Silent w (waitFor holds looks w).2 := by
  induction looks generalizing w with
  | zero => exact .refl w
  | succ n ih =>
    rw [waitFor]
    split
    · exact .refl w
    · have hsleep := silent_sleep h lookInterval
      exact hsleep.trans (ih (hsleep.turns.trans h))

theorem silent_loopStep (h : w.turns = []) (s : LoopStep) : Silent w (loopStep s w).2 := by
  cases s with
  | create name =>
    simp only [loopStep, createLoop]
    split <;> exact ⟨rfl, rfl, rfl⟩
  | send name message =>
    simp only [loopStep]
    split
    · exact .refl w
    · split
      · exact .refl w
      · exact ⟨rfl, rfl, rfl⟩
  | outcomes name count =>
    simp only [loopStep]
    split
    · exact .refl w
    · exact silent_waitFor h ..
  | settle =>
    simp only [loopStep]
    exact silent_sleep h 1000

/-! ## Steps -/

/-- **A step that starts no coordinator** and is on no other node than the one of this name. -/
def Step.IsQuiet (name : String) : Step → Prop
  | .node _ (.start _) => False
  | .node _ (.startAndListen ..) => False
  | .node other _ => other = name
  | _ => True

theorem nodeStep_of_no_handle {name : String} {s : NodeStep} (hquiet : (Step.node name s).IsQuiet name)
    (h : (w.nodes.get? name).bind (·.handle) = none) : (nodeStep name s w).2 = w := by
  cases s with
  | start | startAndListen => exact hquiet.elim
  | policy =>
    simp only [nodeStep]
    split <;> rfl
  | _ => simp only [nodeStep, h]

theorem silent_step {name : String} {s : Step} (hquiet : s.IsQuiet name) (hturns : w.turns = [])
    (hnode : (w.nodes.get? name).bind (·.handle) = none) : Silent w (step s w).2 := by
  cases s with
  | files s => exact silent_fileStep s w
  | openMemory data plan => exact ⟨rfl, rfl, rfl⟩
  | memory s => exact silent_act isApart_memorySlot ..
  | openFile mode path => exact silent_fill isApart_fileSlot ..
  | file s => exact silent_act isApart_fileSlot ..
  | log s => exact silent_logStep s w
  | queue s => exact silent_queueStep s w
  | history s => exact silent_historyStep s w
  | state s => exact silent_stateStep s w
  | lock s => exact silent_lockStep s w
  | node other s =>
    have hother : other = name := by
      cases s <;> first | exact hquiet.elim | exact hquiet
    subst hother
    rw [step, nodeStep_of_no_handle hquiet hnode]
    exact .refl w
  | events => exact .refl w
  | loop s => exact silent_loopStep hturns s
  | inspect s => exact .refl w

/-- The bench after steps. -/
def after (steps : List Step) (w : Workbench) : Workbench := steps.foldl (fun w s => (step s w).2) w

/-- **Nothing is recorded by steps that start no coordinator.** -/
theorem silent_after {name : String} {steps : List Step} (hquiet : ∀ s ∈ steps, s.IsQuiet name)
    (hturns : w.turns = []) (hnode : (w.nodes.get? name).bind (·.handle) = none) :
    Silent w (after steps w) := by
  induction steps generalizing w with
  | nil => exact .refl w
  | cons s rest ih =>
    obtain ⟨hs, hrest⟩ := List.forall_mem_cons.1 hquiet
    have hstep := silent_step hs hturns hnode
    exact hstep.trans (ih hrest (hstep.turns.trans hturns) (by rw [hstep.nodes, hnode]))

end Replica.Workbench
