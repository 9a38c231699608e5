/-
The stores of a data directory lie apart.

A fold replaces the state file and a push adds to the history file; a dequeue adds
to the queue file or empties it. No two of them touch one file, so a dequeue changes
places with the others and leaves the same file system, bytes and names and all.
-/
import Replica.Proofs.Coordinator.FileStores
import Replica.Proofs.Coordinator.Separation

namespace Replica

open FileSystem

/-! ## Changes of two files -/

namespace FileSystem

variable {disk : FileSystem} {here : Place} {n m : Nat}

theorem setBytes_comm (data data' : Bytes) (h : disk.contents.get? n ≠ none) (hne : n ≠ m) :
    (disk.setBytes n data).setBytes m data' = (disk.setBytes m data').setBytes n data := by
  simp only [setBytes, Table.insert_comm disk.contents data data' h hne]

theorem replaced_setBytes (name : String) (data data' : Bytes) (h : disk.contents.get? n ≠ none)
    (hlt : n < disk.fresh) :
    (disk.setBytes n data).replaced here name data' =
      (disk.replaced here name data').setBytes n data := by
  have hcomm := Table.insert_comm disk.contents data data' h (Nat.ne_of_lt hlt)
  simp only [replaced, withTemporary, withFile, moveName, setBytes, Table.insert_insert_self, hcomm]

end FileSystem

/-- Actions that do the same before and after each other are apart. -/
theorem Apart.of_outcomes {S ε ε' α β : Type} {a : EStateM ε S α} {b : EStateM ε' S β} {s : S}
    {left : Except ε α} {right : Except ε' β} {afterLeft afterRight : S → S}
    (hleft : outcome a s = (left, afterLeft s))
    (hleft' : outcome a (afterRight s) = (left, afterLeft (afterRight s)))
    (hright : outcome b s = (right, afterRight s))
    (hright' : outcome b (afterLeft s) = (right, afterRight (afterLeft s)))
    (hcomm : afterLeft (afterRight s) = afterRight (afterLeft s)) : Apart a b s := by
  refine ⟨?_, ?_, ?_⟩
  · rw [hright, hleft, hleft']
  · rw [hleft, hright, hright']
  · rw [hright, hleft, hleft', hright', hcomm]

namespace FileStores

open DataDirectory MessageStores

variable {path : String} {here : Place} {entries : List Message} {stores : FileStores}

/-! ## What each call comes to -/

/-- The stores after a dequeue that leaves these bytes in the queue file. -/
def withDequeued (n : Nat) (queue : Queue OpenFile) (image? : Option Bytes) (stores : FileStores) :
    FileStores :=
  { stores with queue, disk := image?.elim stores.disk (stores.disk.setBytes n) }

/-- The stores after a push that leaves these bytes in the history file. -/
def withPushed (n : Nat) (history : History OpenFile) (image? : Option Bytes) (stores : FileStores) :
    FileStores :=
  { stores with history, disk := image?.elim stores.disk (stores.disk.setBytes n) }

/-- The stores after a fold that puts these bytes in the place of the state file. -/
def withFolded (here : Place) (state : StateStore) (image? : Option Bytes) (stores : FileStores) :
    FileStores :=
  { stores with state, disk := image?.elim stores.disk (stores.disk.replaced here stateFile) }

/-- **A dequeue** depends on the queue and its file only. -/
theorem InDirectory.dequeue_outcome (h : stores.InDirectory path here entries) :
    ∃ n queue image?, stores.disk.entry? (here ++ [queueFile]) = some (.file n) ∧
      ∀ stores' : FileStores, stores'.queue = stores.queue →
        stores'.disk.bytes n = stores.disk.bytes n →
        outcome dequeue stores' =
          (.ok stores.queue.pending.head?, stores'.withDequeued n queue image?) := by
  obtain ⟨log, hlog, -, n, image, replay, hentry, hheld, -⟩ := h.queue
  have hrun (stores' : FileStores) : (dequeue : EStateM StoreError FileStores _) stores' =
      queuePart.run Queue.dequeue stores' := rfl
  cases hpending : stores.queue.pending with
  | nil =>
    refine ⟨n, stores.queue, none, hentry, fun stores' hqueue _ => ?_⟩
    rw [outcome, hrun, Part.run, queuePart]
    dsimp only
    rw [hqueue, Queue.dequeue_of_nil hlog hpending]
    rfl
  | cons head rest =>
    obtain ⟨file, image', -, hcall⟩ := Queue.dequeue_file hlog hheld.isOn hpending (stores.disk.bytes n)
    refine ⟨n, { stores.queue with log := some { log with store := file }, pending := rest }, some image',
      hentry, fun stores' hqueue hbytes => ?_⟩
    rw [outcome, hrun, Part.run, queuePart]
    dsimp only
    rw [hqueue, hcall stores'.disk hbytes]
    rfl

/-- **A push** depends on the history and its file only. -/
theorem InDirectory.push_outcome (h : stores.InDirectory path here entries) (message : Message) :
    ∃ n history image? result, stores.disk.entry? (here ++ [historyFile]) = some (.file n) ∧
      ∀ stores' : FileStores, stores'.history = stores.history →
        stores'.disk.bytes n = stores.disk.bytes n →
        outcome (push message) stores' = (result, stores'.withPushed n history image?) := by
  obtain ⟨n, hentry, log, image, hlog, -, hheld, -⟩ := h.history
  have hrun (stores' : FileStores) : (push message : EStateM StoreError FileStores _) stores' =
      historyPart.run (History.push message) stores' := rfl
  have hopen : stores.history.log = some log := by
    rw [hlog]
    rfl
  rcases History.push_file hopen hheld.isOn message (stores.disk.bytes n) with
    ⟨size, limit, hcall⟩ | ⟨history, image', hcall⟩
  · refine ⟨n, stores.history, none, .error (.messageTooLarge size limit), hentry,
      fun stores' hhistory _ => ?_⟩
    rw [outcome, hrun, Part.run, historyPart]
    dsimp only
    rw [hhistory, hcall]
    rfl
  · refine ⟨n, history, some image', .ok (), hentry, fun stores' hhistory hbytes => ?_⟩
    rw [outcome, hrun, Part.run, historyPart]
    dsimp only
    rw [hhistory, hcall stores'.disk hbytes]
    rfl

/-- **A fold** depends on the state store only. -/
theorem fold_outcome (path : String) (here : Place) (state : StateStore) (message : Message) :
    ∃ state' image? result, ∀ {stores : FileStores} {entries : List Message},
      stores.InDirectory path here entries → stores.state = state →
      outcome (fold message) stores = (result, stores.withFolded here state' image?) := by
  by_cases hfits : Route.Fits (Path.temporary (statePath path))
  · refine ⟨{ state with snapshot := state.next message }, some (state.next message).encode,
      .ok (state.next message).digest, ?_⟩
    rintro stores entries h rfl
    rcases h.fold_cases message with ⟨-, hrun⟩ | ⟨hnot, -⟩
    · rw [outcome, hrun]
      rfl
    · exact absurd hfits hnot
  · obtain ⟨e, he⟩ := StateStore.apply_of_not_fits hfits message
    refine ⟨state, none, .error (.ofStorageOs e), ?_⟩
    rintro stores entries h rfl
    have hrun : (fold message : EStateM StoreError FileStores _) stores =
        statePart.run (StateStore.apply message) stores := rfl
    rw [outcome, hrun, Part.run, show StateStore.apply message (statePart.get stores) = _ from
      he stores.state stores.disk h.state.pathEq h.state.isOpen]
    rfl

/-! ## What each call keeps -/

theorem InDirectory.fold_after (h : stores.InDirectory path here entries) (message : Message) :
    InDirectory (outcome (fold message) stores).2 path here entries ∧
      Alters here [stateFile, temporaryName stateFile] stores.disk
        (outcome (fold message) stores).2.disk := by
  rcases h.fold_cases message with ⟨hfits, hrun⟩ | ⟨-, e, hrun⟩
  · rw [outcome, hrun]
    exact h.withFold message hfits
  · rw [outcome, hrun]
    exact ⟨h, .refl h.tidy _⟩

theorem InDirectory.enqueue_after (h : stores.InDirectory path here entries) (message : Message) :
    InDirectory (outcome (enqueue message) stores).2 path here entries := by
  obtain ⟨queue, disk', h', -, ⟨hrun, -⟩ | ⟨e, -, hrun, -⟩⟩ := h.enqueue_cases message
  · rw [outcome, hrun]
    exact h'
  · rw [outcome, hrun]
    exact h'

theorem InDirectory.push_after (h : stores.InDirectory path here entries) (message : Message) :
    (∃ entries', InDirectory (outcome (push message) stores).2 path here entries') ∧
      Alters here [historyFile] stores.disk (outcome (push message) stores).2.disk := by
  obtain ⟨history, disk', halters, ⟨hrun, h'⟩ | ⟨e, -, hrun, h'⟩⟩ := h.push_cases message
  · rw [outcome, hrun]
    exact ⟨⟨_, h'⟩, halters⟩
  · rw [outcome, hrun]
    exact ⟨⟨_, h'⟩, halters⟩

theorem InDirectory.dequeue_after (h : stores.InDirectory path here entries) :
    InDirectory (outcome (dequeue : EStateM StoreError FileStores _) stores).2 path here entries ∧
      Alters here [queueFile] stores.disk
        (outcome (dequeue : EStateM StoreError FileStores _) stores).2.disk := by
  obtain ⟨queue, disk', hrun, h', halters, -⟩ := h.dequeue_cases
  rw [outcome, hrun]
  exact ⟨h', halters⟩

/-! ## A dequeue and the others -/

theorem InDirectory.fold_dequeue (h : stores.InDirectory path here entries) (message : Message) :
    Apart (fold message) (dequeue : EStateM StoreError FileStores _) stores := by
  obtain ⟨n, queue, image?, hentry, hdequeue⟩ := h.dequeue_outcome
  obtain ⟨state, image'?, result, hfold⟩ := fold_outcome path here stores.state message
  obtain ⟨hlt, hknown⟩ := h.tidy.known hentry
  have hfirst := hdequeue stores rfl rfl
  have hthere := h.dequeue_after.1
  have hbytes := (h.fold_after message).2.bytes (by decide) hentry
  rw [hfirst] at hthere
  rw [hfold h rfl] at hbytes
  refine .of_outcomes (hfold h rfl) (hfold hthere rfl) hfirst (hdequeue _ rfl hbytes) ?_
  cases image? with
  | none => rfl
  | some image =>
    cases image'? with
    | none => rfl
    | some image' =>
      simp only [withFolded, withDequeued, Option.elim]
      rw [replaced_setBytes stateFile image image' hknown hlt]

theorem InDirectory.push_dequeue (h : stores.InDirectory path here entries) (message : Message) :
    Apart (push message) (dequeue : EStateM StoreError FileStores _) stores := by
  obtain ⟨n, queue, image?, hentry, hdequeue⟩ := h.dequeue_outcome
  obtain ⟨m, history, image'?, result, hentry', hpush⟩ := h.push_outcome message
  have hfirst := hdequeue stores rfl rfl
  have hfirst' := hpush stores rfl rfl
  have hbytes := h.dequeue_after.2.bytes (by decide) hentry'
  have hbytes' := (h.push_after message).2.bytes (by decide) hentry
  rw [hfirst] at hbytes
  rw [hfirst'] at hbytes'
  refine .of_outcomes hfirst' (hpush _ rfl hbytes) hfirst (hdequeue _ rfl hbytes') ?_
  have hne : n ≠ m := by
    rintro rfl
    exact absurd (h.tidy.single hentry hentry') (by decide)
  cases image? with
  | none => rfl
  | some image =>
    cases image'? with
    | none => rfl
    | some image' =>
      simp only [withPushed, withDequeued, Option.elim]
      rw [setBytes_comm image image' (h.tidy.known hentry).2 hne]

/-! ## All of it -/

/-- **The stores of a directory lie apart.** -/
def separation : MessageStores.Separation FileStores where
  Ready stores := ∃ path here entries, stores.InDirectory path here entries
  ready_fold := by
    rintro s ⟨path, here, entries, h⟩ m
    exact ⟨path, here, entries, (h.fold_after m).1⟩
  ready_enqueue := by
    rintro s ⟨path, here, entries, h⟩ m
    exact ⟨path, here, entries, h.enqueue_after m⟩
  ready_push := by
    rintro s ⟨path, here, entries, h⟩ m
    obtain ⟨entries', h'⟩ := (h.push_after m).1
    exact ⟨path, here, entries', h'⟩
  ready_dequeue := by
    rintro s ⟨path, here, entries, h⟩
    exact ⟨path, here, entries, h.dequeue_after.1⟩
  fold_dequeue := by
    rintro s ⟨path, here, entries, h⟩ m
    exact h.fold_dequeue m
  push_dequeue := by
    rintro s ⟨path, here, entries, h⟩ m
    exact h.push_dequeue m
  reader_dequeue := by
    rintro s ⟨path, here, entries, h⟩
    obtain ⟨queue, disk', hrun, -⟩ := h.dequeue_cases
    rw [outcome, hrun]
    rfl
  open_reader := by
    rintro s ⟨path, here, entries, h⟩
    obtain ⟨reader, hreader⟩ := h.reader_ok
    rw [hreader]
    rfl
  open_fold := by
    rintro s ⟨path, here, entries, h⟩ m
    rcases h.fold_cases m with ⟨-, hrun⟩ | ⟨-, e, hrun⟩
    · rw [outcome, hrun]
      rfl
    · rw [outcome, hrun]
      rfl
  open_enqueue := by
    rintro s ⟨path, here, entries, h⟩ m
    obtain ⟨queue, disk', -, -, ⟨hrun, -⟩ | ⟨e, hopen, hrun, -⟩⟩ := h.enqueue_cases m
    · rw [outcome, hrun]
      rfl
    · rw [outcome, hrun]
      exact hopen
  open_push := by
    rintro s ⟨path, here, entries, h⟩ m
    obtain ⟨history, disk', -, ⟨hrun, -⟩ | ⟨e, hopen, hrun, -⟩⟩ := h.push_cases m
    · rw [outcome, hrun]
      rfl
    · rw [outcome, hrun]
      exact hopen

end FileStores

end Replica
