/-
What is seen of a queue in a file over any use of it.

A use is a call, a close or a reopen. `QueueUse.onPlain` says what each comes to on a
plain list that is open or closed, and a queue in a file does just that, whichever way
its file is opened, as long as opening gives what the file opens to (`Faithful`): one
use by cases (`Rests.next`), and by induction any run of them (`Rests.run`). Opening
with care for the log and opening the log as it is are both faithful, so the care is
not seen (`maintenance_unseen`).
-/
import Replica.Proofs.Queue.Calls
import Replica.Proofs.Disk.Resolution
import Replica.Proofs.Queue.Maintenance

namespace Replica

open FileSystem OpenFile

/-- What is done with a queue in a file once it is open. -/
inductive QueueUse
  | call (call : QueueCall)
  | close
  /-- Opens the file anew, with other options. -/
  | reopen (options : StoreOptions)
  deriving DecidableEq, Repr, Inhabited

namespace QueueUse

/-- A way to open a queue file. -/
abbrev Opening := StoreOptions → EStateM StoreError FileSystem (Queue OpenFile)

/-- Makes one use of a queue. One that does not open again is closed. -/
def act (opening : Opening) : QueueUse → Queue.Action OpenFile FileSystem QueueReply
  | call c => c.act
  | close => do
    Queue.close
    return .accepted
  | reopen options => fun (queue, disk) =>
    match opening options disk with
    | .ok queue' disk' => .ok .accepted (queue', disk')
    | .error e disk' => .error e ({ queue with log := none }, disk')

/-- The queue and the file system after a use, whatever came of it. -/
def next (opening : Opening) (use : QueueUse) (s : Queue OpenFile × FileSystem) :
    Queue OpenFile × FileSystem := (outcome (use.act opening) s).2

/-- The answer to a use. -/
def answer (opening : Opening) (use : QueueUse) (s : Queue OpenFile × FileSystem) :
    Except StoreError QueueReply := (outcome (use.act opening) s).1

/-- The queue and the file system after uses made one after another. -/
def run (opening : Opening) (uses : List QueueUse) (s : Queue OpenFile × FileSystem) :
    Queue OpenFile × FileSystem := uses.foldl (fun s use => use.next opening s) s

/-- Every answer on the way. -/
def answers (opening : Opening) : List QueueUse → Queue OpenFile × FileSystem →
    List (Except StoreError QueueReply)
  | [], _ => []
  | use :: uses, s => use.answer opening s :: answers opening uses (use.next opening s)

/-- What a use comes to on a plain list, of which is known whether it is closed. -/
def onPlain : QueueUse → Bool × List Message → Except StoreError QueueReply × Bool × List Message
  | close, (_, pending) => (.ok .accepted, true, pending)
  | reopen _, (_, pending) => (.ok .accepted, false, pending)
  | call _, (true, pending) => (.error (.closed queueName), true, pending)
  | call (.enqueue message), (false, pending) =>
    match Queue.enqueueFrame message with
    | .error e => (.error e, false, pending)
    | .ok _ => (.ok .accepted, false, pending ++ [message])
  | call c, (false, pending) => (.ok (c.onList pending).1, false, (c.onList pending).2)

/-- The answers on a plain list. -/
def answersOnPlain : List QueueUse → Bool × List Message → List (Except StoreError QueueReply)
  | [], _ => []
  | use :: uses, p => (use.onPlain p).1 :: answersOnPlain uses (use.onPlain p).2

end QueueUse

namespace Queue

/-- Opens a queue file and takes no care of the log in it. -/
def openAsIs (path : String) (options : StoreOptions) : EStateM StoreError FileSystem (Queue OpenFile) :=
  fun disk =>
    match openWithDirectories path disk with
    | .error e disk' => .error (.ofStorageOs e) disk'
    | .ok file disk₁ =>
      match attach options (file, disk₁) with
      | .error e (_, disk') => .error e disk'
      | .ok queue (_, disk') => .ok queue disk'

variable {disk disk' : FileSystem} {path : String} {here : Place} {name : String}
  {queue queue' : Queue OpenFile} {pending : List Message} {image : Bytes}
  {s : Queue OpenFile × FileSystem} {opening : QueueUse.Opening}

/-! ## Queues at rest -/

/-- What is seen of a queue: whether it is closed, and what is pending. -/
def seen (queue : Queue OpenFile) : Bool × List Message := (queue.isClosed, queue.pending)

/-- **A queue and its file at rest**: the file opens to what is pending, and if the queue is open, it
is so on this file. -/
structure Rests (path : String) (here : Place) (name : String) (s : Queue OpenFile × FileSystem) :
    Prop where
  replaceable : s.2.Replaceable path here name
  opens : ∃ image replay, s.2.HasFile here name image ∧ OpensTo image replay ∧
    replay.pending.toList = s.1.pending
  inFile (h : s.1.isClosed = false) : s.1.InFile s.2 here name

/-- **An opening that gives what the file opens to**, and a queue at rest. -/
def Faithful (opening : QueueUse.Opening) (path : String) (here : Place) (name : String) : Prop :=
  ∀ {disk : FileSystem} {pending : List Message}, disk.Replaceable path here name →
    FileOpensTo disk here name pending → ∀ options, ∃ queue disk',
      opening options disk = .ok queue disk' ∧ queue.isClosed = false ∧ queue.pending = pending ∧
        Rests path here name (queue, disk')

theorem InFile.rests (h : queue'.InFile disk' here name) (hdisk : disk.Replaceable path here name)
    (halters : Alters here [name] disk disk') : Rests path here name (queue', disk') := by
  obtain ⟨log, -, hformat, n, image, replay, hentry, hheld, hreplays, hpending⟩ := id h
  have hlog : LogOn log disk' here name image := ⟨hformat, n, hentry, hheld⟩
  exact ⟨hlog.replaceable hdisk halters, ⟨image, replay, hlog.hasFile, hreplays.opensTo, hpending⟩,
    fun _ => h⟩

theorem inFile_of_logOn {log : Log OpenFile} {replay : QueueReplay}
    (hlog : LogOn log disk here name image) (hreplays : Replays image replay)
    (hqueue : queue.log = some log) (hpending : replay.pending.toList = queue.pending) :
    queue.InFile disk here name := by
  obtain ⟨hformat, n, hentry, hheld⟩ := hlog
  exact ⟨log, hqueue, hformat, n, image, replay, hentry, hheld, hreplays, hpending⟩

theorem Kept.rests {log : Log OpenFile} {threshold : Nat}
    (h : Kept disk path here name threshold pending log) :
    Rests path here name (⟨some path, some log, pending⟩, disk) := by
  obtain ⟨image, hlog, replay, hreplays, hpending, -⟩ := h.trimmed
  have hfile : InFile ⟨some path, some log, pending⟩ disk here name :=
    inFile_of_logOn hlog hreplays rfl hpending
  exact hfile.rests h.replaceable (.refl h.replaceable.tidy _)

/-! ## Faithful openings -/

theorem faithful_openFile : Faithful (openFile path) path here name := by
  intro disk pending h hopens options
  obtain ⟨log, disk', hrun, hkept⟩ := openFile_kept h hopens options
  exact ⟨_, disk', hrun, rfl, rfl, hkept.rests⟩

theorem faithful_openAsIs : Faithful (openAsIs path) path here name := by
  intro disk pending h hopens options
  obtain ⟨file, disk₁, file', disk₂, records, image, replay, hopen, hrecover, hreplay, hpending,
    hreplays, hlog, halters⟩ := recovered h hopens options
  have hfile : InFile ⟨none, some ⟨file', queueFormat, options.syncOnWrite⟩, replay.pending.toList⟩
      disk₂ here name := inFile_of_logOn hlog hreplays rfl rfl
  refine ⟨_, disk₂, ?_, rfl, hpending, hfile.rests h halters⟩
  rw [openAsIs, hopen]
  dsimp only
  rw [attach_eq, hrecover]
  dsimp only
  rw [hreplay]

/-! ## One use, and a run -/

theorem InFile.enqueue_cases (h : queue.InFile disk here name) (message : Message) :
    (∃ e, enqueueFrame message = .error e ∧ enqueue message (queue, disk) = .error e (queue, disk)) ∨
      ∃ frame s, enqueueFrame message = .ok frame ∧ enqueue message (queue, disk) = .ok () s := by
  obtain ⟨log, hlog, -, n, image, replay, -, hheld, -⟩ := h
  rw [enqueue_eq hlog, enqueueFrame]
  cases message.encode with
  | error e => exact .inl ⟨e, rfl, rfl⟩
  | ok payload =>
    dsimp only
    rw [Frame.encode, Log.append_file hheld.isOn]
    by_cases hlong : Frame.maxPayload < payload.length
    · rw [if_pos hlong, if_pos hlong]
      refine .inl ⟨_, rfl, ?_⟩
      dsimp only
      rw [← hlog]
    · rw [if_neg hlong, if_neg hlong]
      exact .inr ⟨_, _, rfl, rfl⟩

/-- **One call** of an open queue in a file is a call of a plain list. -/
theorem InFile.call (h : queue.InFile disk here name) (hdisk : disk.Replaceable path here name)
    (call : QueueCall) :
    ∃ answer queue' disk', outcome call.act (queue, disk) = (answer, (queue', disk')) ∧
      Rests path here name (queue', disk') ∧
      (answer, queue'.seen) = (QueueUse.call call).onPlain (false, queue.pending) := by
  have hstill := h.rests hdisk (.refl hdisk.tidy _)
  have hopen := h.isClosed
  cases call with
  | enqueue message =>
    simp only [outcome, QueueCall.act, bind, EStateM.bind, QueueUse.onPlain]
    rcases h.enqueue_cases message with ⟨e, hframe, hrun⟩ | ⟨frame, ⟨queue', disk'⟩, hframe, hrun⟩
    · rw [hframe, hrun]
      exact ⟨_, _, _, rfl, hstill, by rw [seen, hopen]⟩
    · obtain ⟨hfile, halters, hpending⟩ := h.enqueue_ok hdisk.tidy hrun
      rw [hframe, hrun]
      exact ⟨_, _, _, rfl, hfile.rests hdisk halters, by rw [seen, hfile.isClosed, hpending]⟩
  | dequeue =>
    obtain ⟨queue', disk', hrun, hfile, halters, hpending⟩ := h.dequeue_cases hdisk.tidy
    simp only [outcome, QueueCall.act, bind, EStateM.bind, hrun]
    exact ⟨_, _, _, rfl, hfile.rests hdisk halters, by rw [seen, hfile.isClosed, hpending]; rfl⟩
  | peek =>
    simp only [outcome, QueueCall.act, observe, peek, hopen]
    exact ⟨_, _, _, rfl, hstill, by rw [seen, hopen]; rfl⟩
  | snapshot limit =>
    simp only [outcome, QueueCall.act, observe, snapshot, hopen]
    exact ⟨_, _, _, rfl, hstill, by rw [seen, hopen]; rfl⟩

theorem outcome_close (h : Rests path here name (queue, disk)) :
    outcome (QueueUse.act opening .close) (queue, disk) =
      (.ok .accepted, ({ queue with log := none }, disk)) := by
  simp only [outcome, QueueUse.act, bind, EStateM.bind]
  cases hclosed : queue.isClosed with
  | true =>
    obtain ⟨path, log, pending⟩ := queue
    cases log with
    | some log => cases hclosed
    | none => rfl
  | false =>
    obtain ⟨log, hlog, -, n, image, replay, -, hheld, -⟩ := h.inFile hclosed
    rw [close_file hlog hheld.isOn]
    rfl

/-- **One use** of a queue in a file is the same use of a plain list, and leaves a queue at rest. -/
theorem Rests.next (h : Rests path here name s) (hopening : Faithful opening path here name)
    (use : QueueUse) :
    Rests path here name (use.next opening s) ∧
      (use.answer opening s, (use.next opening s).1.seen) = use.onPlain s.1.seen := by
  obtain ⟨queue, disk⟩ := s
  unfold QueueUse.next QueueUse.answer
  cases use with
  | call call =>
    rw [show QueueUse.act opening (.call call) = call.act from rfl]
    cases hclosed : queue.isClosed with
    | true =>
      rw [outcome_act_of_isClosed hclosed]
      exact ⟨h, by rw [seen, hclosed, QueueUse.onPlain]⟩
    | false =>
      obtain ⟨answer, queue', disk', hrun, hrests, hplain⟩ :=
        (h.inFile hclosed).call h.replaceable call
      rw [hrun, show seen queue = (false, queue.pending) by rw [seen, hclosed]]
      exact ⟨hrests, hplain⟩
  | close =>
    rw [outcome_close h]
    exact ⟨⟨h.replaceable, h.opens, fun hopen => by cases hopen⟩, rfl⟩
  | reopen options =>
    obtain ⟨queue', disk', hrun, hopen, hpending, hrests⟩ :=
      hopening h.replaceable (.inr h.opens) options
    simp only [outcome, QueueUse.act, hrun]
    refine ⟨hrests, ?_⟩
    rw [seen, hopen, hpending]
    rfl

/-- **A whole run** of a queue in a file is the same run of a plain list, and leaves a queue at rest. -/
theorem Rests.run (h : Rests path here name s) (hopening : Faithful opening path here name)
    (uses : List QueueUse) :
    Rests path here name (QueueUse.run opening uses s) ∧
      QueueUse.answers opening uses s = QueueUse.answersOnPlain uses s.1.seen := by
  induction uses generalizing s with
  | nil => exact ⟨h, rfl⟩
  | cons use uses ih =>
    obtain ⟨hnext, hplain⟩ := h.next hopening use
    obtain ⟨hrun, hanswers⟩ := ih hnext
    refine ⟨hrun, ?_⟩
    rw [QueueUse.answers, QueueUse.answersOnPlain, hanswers, ← hplain]

/-! ## The care taken of a log is not seen -/

/-- **What opening has made of a queue file**: before, its bytes opened to what is pending now; now
they are a trimmed log of it. -/
def Tended (path : String) (options : StoreOptions) (disk : FileSystem) (queue : Queue OpenFile)
    (disk' : FileSystem) : Prop :=
  ∃ before after replay, disk.readAll path = .ok before ∧ OpensTo before replay ∧
    replay.pending.toList = queue.pending ∧ disk'.readAll path = .ok after ∧
    Trimmed options.compactThreshold queue.pending after

theorem openFile_tended {replay : QueueReplay} (h : disk.Replaceable path here name)
    (hfile : disk.HasFile here name image) (hopens : OpensTo image replay) (options : StoreOptions) :
    ∃ queue disk', openFile path options disk = .ok queue disk' ∧
      queue.seen = (false, replay.pending.toList) ∧ Tended path options disk queue disk' ∧
      Rests path here name (queue, disk') := by
  obtain ⟨log, disk', hrun, hkept⟩ := openFile_kept h (.inr ⟨image, replay, hfile, hopens, rfl⟩) options
  obtain ⟨after, hlog, htrimmed⟩ := hkept.trimmed
  exact ⟨_, disk', hrun, rfl, ⟨image, after, replay, h.isFilePath.names.readAll h.fits hfile, hopens, rfl,
    hkept.replaceable.isFilePath.names.readAll h.fits hlog.hasFile, htrimmed⟩, hkept.rests⟩

/-- **The care taken of a log at opening is not seen.** Take a queue file with no temporary file beside
it, whatever its bytes and whatever the threshold. It opens exactly if a queue opens over the bytes
as they are. Then every use of it is answered as if no opening had ever dropped or compacted the log;
and the first opening and every later one, behind any uses and with any threshold, leaves a file that
says what it said, with at most as many messages given out as the threshold allows, and empty if
nothing is pending. -/
theorem maintenance_unseen {n : Nat} (htidy : disk.Tidy here)
    (hpath : disk.resolve path = .ok (here, .name name false)) (hfile : disk.lookup path = .ok (.file n))
    (hnone : disk.lookup (Path.temporary path) = .error .notFound) (options : StoreOptions) :
    ((∃ queue disk', openFile path options disk = .ok queue disk') ↔
        ∃ queue s, attach options (MemoryStore.ofBytes (disk.bytes n), ()) = .ok queue s) ∧
      ∀ queue disk', openFile path options disk = .ok queue disk' →
        Tended path options disk queue disk' ∧
        (∃ queue₀ disk₀, openAsIs path options disk = .ok queue₀ disk₀ ∧ ∀ uses,
          QueueUse.answers (openFile path) uses (queue, disk') =
            QueueUse.answers (openAsIs path) uses (queue₀, disk₀)) ∧
        ∀ uses options',
          let s := QueueUse.run (openFile path) uses (queue, disk')
          ∃ queue'' disk'', openFile path options' s.2 = .ok queue'' disk'' ∧
            queue''.pending = s.1.pending ∧ Tended path options' s.2 queue'' disk'' := by
  obtain ⟨hisPath, hfits', hgone⟩ := isFilePath_of_missing hpath hnone
  have hfits := fits_of_resolve hpath
  have hheld : disk.HasFile here name (disk.bytes n) :=
    hisPath.names.hasFile_of_readAll hfits htidy (by rw [readAll, hfile])
  have hdisk : disk.Replaceable path here name :=
    ⟨hisPath, htidy, hfits, hfits', hheld.ne_directory, by simp [hgone]⟩
  refine ⟨⟨?_, ?_⟩, ?_⟩
  · rintro ⟨queue, disk', hrun⟩
    obtain ⟨replay, hopens⟩ := opensTo_of_openFile hdisk hheld hrun
    obtain ⟨queue, s, hattach, -⟩ := (attach_ofBytes options _ _).2 ⟨replay, hopens, rfl⟩
    exact ⟨queue, s, hattach⟩
  · rintro ⟨queue, s, hattach⟩
    obtain ⟨replay, hopens, -⟩ := (attach_ofBytes options _ _).1 ⟨queue, s, hattach, rfl⟩
    obtain ⟨queue', disk', hrun, -⟩ := openFile_tended hdisk hheld hopens options
    exact ⟨queue', disk', hrun⟩
  · intro queue disk' hrun
    obtain ⟨replay, hopens⟩ := opensTo_of_openFile hdisk hheld hrun
    obtain ⟨queue₁, disk₁, hrun₁, hseen, htended, hrests⟩ := openFile_tended hdisk hheld hopens options
    rw [hrun] at hrun₁
    cases hrun₁
    refine ⟨htended, ?_, ?_⟩
    -- Both openings are faithful, so both runs are the same run of a plain list.
    · obtain ⟨queue₀, disk₀, hrun₀, hopen₀, hpending₀, hrests₀⟩ :=
        faithful_openAsIs hdisk (.inr ⟨_, replay, hheld, hopens, rfl⟩) options
      refine ⟨queue₀, disk₀, hrun₀, fun uses => ?_⟩
      have hseen₀ : queue₀.seen = (false, replay.pending.toList) := by rw [seen, hopen₀, hpending₀]
      rw [(hrests.run faithful_openFile uses).2, (hrests₀.run faithful_openAsIs uses).2, hseen, hseen₀]
    · intro uses options' s
      obtain ⟨hrests', -⟩ := hrests.run faithful_openFile uses
      obtain ⟨image, replay', hfile', hopens', hpending'⟩ := hrests'.opens
      obtain ⟨queue'', disk'', hrun'', hseen'', htended'', -⟩ :=
        openFile_tended hrests'.replaceable hfile' hopens' options'
      exact ⟨queue'', disk'', hrun'', (congrArg Prod.snd hseen'').trans hpending', htended''⟩

/-- A queue file that gave one of two messages out and ends in a torn record. -/
def tornBehindDequeue : FileSystem :=
  let frame := Frame.toBytes queueFormat.magic
  (outcome (FileSystem.replace "/queue.log"
    (frame .enqueue (Message.toBytes ⟨⟨7⟩, [1]⟩) ++ frame .enqueue (Message.toBytes ⟨⟨8⟩, []⟩) ++
      frame .dequeue (QueueReplay.dequeuePayload ⟨7⟩) ++ (frame .dequeue []).take 5)) {}).2

theorem replaceable_tornBehindDequeue :
    tornBehindDequeue.Replaceable "/queue.log" [] "queue.log" := by
  have hempty : FileSystem.Replaceable {} "/queue.log" [] "queue.log" :=
    @replaceable_nothing "queue.log" (by decide) (by decide) (by decide +kernel)
  exact hempty.outcome_replaceWith none _

/-- Opened with a threshold of nothing, its log is compacted to one record. -/
theorem maintenance_unseen_tornBehindDequeue :
    ∃ queue disk', openFile "/queue.log" ⟨true, 0⟩ tornBehindDequeue = .ok queue disk' ∧
      queue.pending = [⟨⟨8⟩, []⟩] ∧ (disk'.readAll "/queue.log").toOption.map List.length = some 27 ∧
      Tended "/queue.log" ⟨true, 0⟩ tornBehindDequeue queue disk' ∧
      ∃ queue₀ disk₀, openAsIs "/queue.log" ⟨true, 0⟩ tornBehindDequeue = .ok queue₀ disk₀ ∧
        ∀ uses, QueueUse.answers (openFile "/queue.log") uses (queue, disk') =
          QueueUse.answers (openAsIs "/queue.log") uses (queue₀, disk₀) := by
  have hdisk := replaceable_tornBehindDequeue
  have hfile : tornBehindDequeue.entry? ([] ++ ["queue.log"]) = some (.file 0) := by decide +kernel
  have hnone : tornBehindDequeue.entry? ([] ++ [temporaryName "queue.log"]) = none := by
    decide +kernel
  have hshown : (match openFile "/queue.log" ⟨true, 0⟩ tornBehindDequeue with
      | .ok queue disk' =>
        some (queue.pending, (disk'.readAll "/queue.log").toOption.map List.length)
      | .error _ _ => none) = some ([⟨⟨8⟩, []⟩], some 27) := by
    decide +kernel
  cases hrun : openFile "/queue.log" ⟨true, 0⟩ tornBehindDequeue with
  | error e disk' =>
    rw [hrun] at hshown
    cases hshown
  | ok queue disk' =>
    rw [hrun] at hshown
    simp only [Option.some.injEq, Prod.mk.injEq] at hshown
    have hunseen := maintenance_unseen hdisk.tidy (hdisk.isFilePath.names.resolve hdisk.fits)
      (by rw [hdisk.isFilePath.names.lookup hdisk.fits, hfile])
      (by rw [hdisk.isFilePath.temporary.lookup hdisk.fitsTemporary, hnone]) ⟨true, 0⟩
    obtain ⟨htended, hsame, -⟩ := hunseen.2 queue disk' hrun
    exact ⟨queue, disk', rfl, hshown.1, hshown.2, htended, hsame⟩

end Queue

end Replica
