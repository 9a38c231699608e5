/-
State stores over whole runs.

A run is any list of folds, closes and reopens, where the replacement of any fold may
fail on its own at any call up to the renaming and leave its temporary file behind.
One call keeps memory and file in agreement and folds at most one message in
(`Agrees.next`); by induction a run has folded just the messages whose folds went
through (`Agrees.run`, `memory_and_file_agree`).
-/
import Replica.Proofs.State.Opening

namespace Replica

open FileSystem

/-! ## Calls -/

/-- A call of a state store. -/
inductive StateCall
  /-- A fold, where one call of the replacement may fail on its own. -/
  | fold (message : Message) (mishap : Option Replacement.Mishap)
  | close
  /-- Opens the file anew, with the same fold. -/
  | reopen

namespace StateCall

/-- Makes a call; a fold returns the digest. -/
def act : StateCall → StateStore.Action (Option Digest)
  | fold message mishap => fun s =>
    match StateStore.applyWith mishap message s with
    | .ok digest s' => .ok (some digest) s'
    | .error e s' => .error e s'
  | close => fun (state, disk) => .ok none (state.close, disk)
  | reopen => fun (state, disk) =>
    match StateStore.openFile state.path state.fold disk with
    | .ok state' disk' => .ok none (state', disk')
    | .error e disk' => .error e (state.close, disk')

/-- The store and the file system after a call, whatever came of it. -/
def next (call : StateCall) (s : StateStore × FileSystem) : StateStore × FileSystem :=
  (outcome call.act s).2

/-- The answer to a call. -/
def answer (call : StateCall) (s : StateStore × FileSystem) : Except StoreError (Option Digest) :=
  (outcome call.act s).1

/-- The store and the file system after calls made one after another. -/
def run (calls : List StateCall) (s : StateStore × FileSystem) : StateStore × FileSystem :=
  calls.foldl (fun s call => call.next s) s

/-- What has been folded, if the call was a fold that went through: the message, and the digest that
was returned. -/
def foldedBy : StateCall → Except StoreError (Option Digest) → List (Message × Digest)
  | fold message _, .ok (some digest) => [(message, digest)]
  | _, _ => []

/-- What has been folded in a run. -/
def folded : List StateCall → StateStore × FileSystem → List (Message × Digest)
  | [], _ => []
  | call :: calls, s => call.foldedBy (call.answer s) ++ folded calls (call.next s)

/-- A replacement fails on its own up to the renaming only. -/
def FailsBeforeRenamed : StateCall → Prop
  | fold _ mishap => ∀ m, mishap = some m → m.step ≤ 3
  | _ => True

end StateCall

namespace StateStore

variable {disk disk' : FileSystem} {path : String} {here : Place} {name : String} {fold : Fold}
  {state : StateStore} {s : StateStore × FileSystem}

/-- **A store and its file agree**. -/
structure Agrees (path : String) (here : Place) (name : String) (fold : Fold)
    (s : StateStore × FileSystem) : Prop where
  pathEq : s.1.path = path
  foldEq : s.1.fold = fold
  settled : Settled s.2 path here name s.1.snapshot

theorem outcome_fold (message : Message) (mishap : Option Replacement.Mishap) (state : StateStore)
    (disk : FileSystem) :
    outcome (StateCall.fold message mishap).act (state, disk) =
      if state.isClosed then (.error (.closed stateName), (state, disk))
      else
        match FileSystem.replaceWith mishap state.path (state.next message).encode disk with
        | .error e disk' => (.error (.ofStorageOs e), (state, disk'))
        | .ok _ disk' => (.ok (some (state.next message).digest),
            ({ state with snapshot := state.next message }, disk')) := by
  unfold outcome StateCall.act
  dsimp only
  rw [applyWith_eq]
  by_cases hclosed : state.isClosed = true
  · rw [if_pos hclosed, if_pos hclosed]
  · rw [if_neg hclosed, if_neg hclosed]
    cases FileSystem.replaceWith mishap state.path (state.next message).encode disk <;> rfl

theorem outcome_reopen {disk' : FileSystem} {state state' : StateStore}
    (hrun : openFile state.path state.fold disk = .ok state' disk') :
    outcome StateCall.reopen.act (state, disk) = (.ok none, (state', disk')) := by
  unfold outcome StateCall.act
  dsimp only
  rw [hrun]

/-- **One call** keeps store and file in agreement. It folds one message in and returns the digest
behind it, or snapshot and file stay as they were. -/
theorem Agrees.next (h : Agrees path here name fold s) {call : StateCall}
    (hcall : call.FailsBeforeRenamed) :
    Agrees path here name fold (call.next s) ∧
      ((∃ message mishap, call = .fold message mishap ∧
          call.answer s = .ok (some (s.1.next message).digest) ∧
          (call.next s).1.snapshot = s.1.next message) ∨
        call.foldedBy (call.answer s) = [] ∧ (call.next s).1.snapshot = s.1.snapshot ∧
          (call.next s).2.readAll path = s.2.readAll path) := by
  obtain ⟨state, disk⟩ := s
  obtain ⟨rfl, rfl, hsettled⟩ := h
  unfold StateCall.next StateCall.answer
  cases call with
  | fold message mishap =>
    rw [outcome_fold]
    by_cases hclosed : state.isClosed = true
    · rw [if_pos hclosed]
      exact ⟨⟨rfl, rfl, hsettled⟩, .inr ⟨rfl, rfl, rfl⟩⟩
    · rw [if_neg hclosed]
      rcases hsettled.replaceWith hcall (state.next message) with
        ⟨disk', hrun, hsettled'⟩ | ⟨e, disk', hrun, hsettled', hread⟩
      · rw [hrun]
        exact ⟨⟨rfl, rfl, hsettled'⟩, .inl ⟨message, mishap, rfl, rfl, rfl⟩⟩
      · rw [hrun]
        exact ⟨⟨rfl, rfl, hsettled'⟩, .inr ⟨rfl, rfl, hread⟩⟩
  | close => exact ⟨⟨rfl, rfl, hsettled⟩, .inr ⟨rfl, rfl, rfl⟩⟩
  | reopen =>
    obtain ⟨disk', hrun, hsettled', hread⟩ := hsettled.openFile state.fold
    rw [outcome_reopen hrun]
    exact ⟨⟨rfl, rfl, hsettled'⟩, .inr ⟨rfl, rfl, hread⟩⟩

theorem Agrees.reopen (h : Agrees path here name fold s) : StateCall.reopen.answer s = .ok none := by
  obtain ⟨state, disk⟩ := s
  obtain ⟨rfl, rfl, hsettled⟩ := h
  obtain ⟨disk', hrun, -⟩ := hsettled.openFile state.fold
  rw [StateCall.answer, outcome_reopen hrun]

/-- **A whole run** keeps store and file in agreement, and the store has folded what the calls say. -/
theorem Agrees.run (h : Agrees path here name fold s) {calls : List StateCall}
    (hcalls : ∀ call ∈ calls, call.FailsBeforeRenamed) :
    let folded := StateCall.folded calls s
    let snapshot := (StateCall.run calls s).1.snapshot
    let fold' := fold.startingAt s.1.snapshot.digest
    Agrees path here name fold (StateCall.run calls s) ∧
      snapshot.digest = fold'.digest (folded.map (·.1)) ∧
      s.1.snapshot.digest :: folded.map (·.2) = fold'.digests (folded.map (·.1)) ∧
      snapshot.applied = s.1.snapshot.applied + UInt64.ofNat folded.length := by
  induction calls generalizing s with
  | nil => exact ⟨h, rfl, rfl, by simp [StateCall.folded, StateCall.run]⟩
  | cons call calls ih =>
    obtain ⟨hcall, hrest⟩ := List.forall_mem_cons.1 hcalls
    obtain ⟨hnext, hdone⟩ := h.next hcall
    obtain ⟨hagrees, hdigest, hdigests, happlied⟩ := ih hnext hrest
    rw [StateCall.folded]
    -- The rest of the run folds from the digest behind this call.
    rcases hdone with ⟨message, mishap, rfl, hanswer, hsnapshot⟩ | ⟨hnone, hsnapshot, -⟩
    · have hstep : (s.1.next message).digest = fold.step s.1.snapshot.digest message := by
        rw [StateStore.next, h.foldEq]
      rw [hsnapshot, hstep] at hdigest hdigests
      rw [hsnapshot] at happlied
      rw [hanswer, StateCall.foldedBy, hstep]
      refine ⟨hagrees, hdigest, ?_, ?_⟩
      · rw [List.singleton_append, List.map_cons, List.map_cons, hdigests]
        exact (fold.digests_startingAt_cons ..).symm
      · rw [List.singleton_append, List.length_cons, UInt64.ofNat_add, UInt64.add_comm (.ofNat _),
          ← UInt64.add_assoc]
        exact happlied
    · rw [hsnapshot] at hdigest hdigests happlied
      rw [hnone]
      exact ⟨hagrees, hdigest, hdigests, happlied⟩

/-- **Memory and file agree over every run.** Open a state file, whatever lies at its path, and make
any calls, where the replacement of any fold may fail on its own at any call up to the renaming. The
file then holds the snapshot in memory; the digest in it is that of the messages whose folds went
through, in order, from where the run started, each returned digest is the one behind its message,
and as many messages have been counted. The file opens again, and a fold that fails changes neither
file nor memory. -/
theorem memory_and_file_agree (htidy : ∀ here, disk.Tidy here)
    (hopen : openFile path fold disk = .ok state disk') (calls : List StateCall)
    (hcalls : ∀ call ∈ calls, call.FailsBeforeRenamed) :
    PathSays disk path fold state.snapshot ∧
      let s := StateCall.run calls (state, disk')
      let folded := StateCall.folded calls (state, disk')
      let fold' := fold.startingAt state.snapshot.digest
      readSnapshot s.2 path = .ok s.1.snapshot ∧
        s.1.snapshot.digest = fold'.digest (folded.map (·.1)) ∧
        state.snapshot.digest :: folded.map (·.2) = fold'.digests (folded.map (·.1)) ∧
        s.1.snapshot.applied = state.snapshot.applied + UInt64.ofNat folded.length ∧
        StateCall.reopen.answer s = .ok none ∧
        ∀ message mishap e, (StateCall.fold message mishap).FailsBeforeRenamed →
          (StateCall.fold message mishap).answer s = .error e →
          ((StateCall.fold message mishap).next s).1.snapshot = s.1.snapshot ∧
            ((StateCall.fold message mishap).next s).2.readAll path = s.2.readAll path := by
  obtain ⟨hpath, hfold, hstart, here, name, hsettled⟩ := settled_of_openFile htidy hopen
  obtain ⟨hagrees, hdigest, hdigests, happlied⟩ :=
    @Agrees.run path here name fold (state, disk') ⟨hpath, hfold, hsettled⟩ calls hcalls
  refine ⟨hstart, hagrees.settled.read, hdigest, hdigests, happlied, hagrees.reopen, ?_⟩
  intro message mishap e hbefore hanswer
  rcases (hagrees.next hbefore).2 with ⟨message', mishap', -, hgiven, -⟩ | ⟨-, hsame⟩
  · rw [hanswer] at hgiven
    cases hgiven
  · exact hsame

/-- A run in which a fold is written in part only, another is refused, and the file is opened again
in between. -/
def tornFold : List StateCall :=
  [.fold ⟨⟨7⟩, []⟩ none, .fold ⟨⟨8⟩, []⟩ (some ⟨1, 3, .noSpace⟩), .reopen, .fold ⟨⟨9⟩, []⟩ none,
    .close, .fold ⟨⟨10⟩, []⟩ none]

/-- Two of the messages have been folded, in memory as in the file. -/
theorem memory_and_file_agree_tornFold :
    ∃ state disk, openFile "/state.db" .sum {} = .ok state disk ∧
      let s := StateCall.run tornFold (state, disk)
      readSnapshot s.2 "/state.db" = .ok s.1.snapshot ∧ s.1.snapshot = ⟨⟨16⟩, 2⟩ := by
  have hlast : (match openFile "/state.db" .sum {} with
      | .ok state disk => some (StateCall.run tornFold (state, disk)).1.snapshot
      | .error _ _ => none) = some ⟨⟨16⟩, 2⟩ := by
    decide +kernel
  cases hopen : openFile "/state.db" .sum {} with
  | error e disk =>
    rw [hopen] at hlast
    cases hlast
  | ok state disk =>
    rw [hopen] at hlast
    have hcalls : ∀ call ∈ tornFold, call.FailsBeforeRenamed := by
      simp [tornFold, StateCall.FailsBeforeRenamed]
    exact ⟨state, disk, rfl, (memory_and_file_agree tidy_nothing hopen tornFold hcalls).2.1,
      Option.some.inj hlast⟩

end StateStore

end Replica
