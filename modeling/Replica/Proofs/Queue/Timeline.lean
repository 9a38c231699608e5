/-
Where a crash puts a queue.

A crash leaves leading bytes of some image that stood in the log during a run.
`Retraces` says of an image that its leading bytes open to what was pending at
some moment, and not to less than they hold. One call adds a record, or a record
and a reset, or nothing (`Advance`), and its images retrace the moments before
and after it; by induction so does every image of a run, and a queue opened over
leading bytes of one is back at a moment of the run (`attach_of_crash`).
-/
import Replica.Proofs.ByteStore.Watched
import Replica.Proofs.Queue.Calls
import Replica.Proofs.Queue.Opening

namespace Replica

namespace Queue

/-! ## Timelines -/

/-- What the log holds and what is pending between two calls. -/
structure Moment where
  image : Bytes
  pending : List Message

/-- **An image retraces a timeline**: whatever is cut off its end, it opens to what was pending at a
moment up to `upto`, and to none before a moment up to `past` whose whole log it still holds. -/
def Retraces (timeline : Nat → Moment) (past upto : Nat) (image : Bytes) : Prop :=
  ∀ n, ∃ j ≤ upto,
    (∃ replay, OpensTo (image.take n) replay ∧ replay.pending.toList = (timeline j).pending) ∧
      ∀ i ≤ past, (timeline i).image <+: image.take n → i ≤ j

/-- The log of a moment is in order: it replays to what is pending. -/
def Moment.Ordered (moment : Moment) : Prop :=
  ∃ replay, Replays moment.image replay ∧ replay.pending.toList = moment.pending

namespace Retraces

variable {timeline : Nat → Moment} {image : Bytes} {past past' upto upto' k : Nat}

theorem mono (h : Retraces timeline past upto image) (hpast : past' ≤ past) (hupto : upto ≤ upto') :
    Retraces timeline past' upto' image := by
  intro n
  obtain ⟨j, hj, hopens, hafter⟩ := h n
  exact ⟨j, Nat.le_trans hj hupto, hopens, fun i hi => hafter i (Nat.le_trans hi hpast)⟩

theorem nil (h : (timeline upto).pending = []) (hpast : past ≤ upto) :
    Retraces timeline past upto [] := by
  intro n
  rw [List.take_nil]
  exact ⟨upto, Nat.le_refl _, ⟨{}, Replays.nil.opensTo, h.symm⟩, fun i hi _ => Nat.le_trans hi hpast⟩

/-- **One more record** is cut off, torn or whole: the moment stays in the past, or it is the next. -/
theorem record (h : Retraces timeline k k (timeline k).image) (hordered : (timeline k).Ordered)
    {kind : RecordKind} {payload : Bytes} (hfits : payload.length ≤ Frame.maxPayload)
    {replay : QueueReplay}
    (hreplays : Replays ((timeline k).image ++ Frame.toBytes queueFormat.magic kind payload) replay)
    (hpending : replay.pending.toList = (timeline (k + 1)).pending) :
    Retraces timeline k (k + 1)
      ((timeline k).image ++ Frame.toBytes queueFormat.magic kind payload) := by
  intro n
  have hlen := Frame.length_toBytes queueFormat.magic kind payload
  -- The cut lies before the record, within it, or behind it.
  by_cases hbefore : n ≤ (timeline k).image.length
  · rw [List.take_append_of_le_length hbefore]
    exact h.mono (Nat.le_refl _) (Nat.le_succ _) n
  · by_cases hpart : n - (timeline k).image.length < Frame.length payload.length
    · obtain ⟨before, hbefore, hkept⟩ := hordered
      rw [List.take_append, List.take_of_length_le (by omega)]
      exact ⟨k, Nat.le_succ _, ⟨before, hbefore.opensTo_part hfits hpart, hkept⟩, fun i hi _ => hi⟩
    · rw [List.take_of_length_le (by rw [List.length_append]; omega)]
      exact ⟨k + 1, Nat.le_refl _, ⟨replay, hreplays.opensTo, hpending⟩, fun i hi _ => by omega⟩

/-- The log of the next moment is only found whole at that moment. -/
theorem reached (h : Retraces timeline k (k + 1) (timeline (k + 1)).image)
    (hordered : (timeline (k + 1)).Ordered) :
    Retraces timeline (k + 1) (k + 1) (timeline (k + 1)).image := by
  intro n
  by_cases hwhole : (timeline (k + 1)).image.length ≤ n
  · obtain ⟨replay, hreplays, hpending⟩ := hordered
    rw [List.take_of_length_le hwhole]
    exact ⟨k + 1, Nat.le_refl _, ⟨replay, hreplays.opensTo, hpending⟩, fun i hi _ => hi⟩
  · obtain ⟨j, hj, hopens, hafter⟩ := h n
    refine ⟨j, hj, hopens, fun i hi hheld => ?_⟩
    rcases Nat.lt_or_eq_of_le hi with hearlier | rfl
    · exact hafter i (by omega) hheld
    · have hle := hheld.length_le
      rw [List.length_take] at hle
      omega

end Retraces

/-! ## One call -/

/-- **What a call does to the log**, and the images on the way: nothing, or one record, behind which
the log is dropped if nothing is pending any more. -/
inductive Advance (before after : Moment) : List Bytes → Prop
  | still (h : after = before) : Advance before after []
  | record {kind : RecordKind} {payload : Bytes} {replay : QueueReplay} {images : List Bytes}
      (hfits : payload.length ≤ Frame.maxPayload)
      (hreplays : Replays (before.image ++ Frame.toBytes queueFormat.magic kind payload) replay)
      (hpending : replay.pending.toList = after.pending)
      (himage : after.image = before.image ++ Frame.toBytes queueFormat.magic kind payload ∨
        after = ⟨[], []⟩)
      (himages : ∀ image ∈ images,
        image = before.image ++ Frame.toBytes queueFormat.magic kind payload ∨ image = after.image) :
      Advance before after images

/-- The images of a call retrace the timeline it belongs to. -/
theorem Advance.retraces {timeline : Nat → Moment} {k : Nat} {images : List Bytes}
    (h : Advance (timeline k) (timeline (k + 1)) images) (hbefore : (timeline k).Ordered)
    (hafter : (timeline (k + 1)).Ordered) (hk : Retraces timeline k k (timeline k).image) :
    Retraces timeline (k + 1) (k + 1) (timeline (k + 1)).image ∧
      ∀ image ∈ images, Retraces timeline k (k + 1) image := by
  have hnext : Retraces timeline k (k + 1) (timeline (k + 1)).image ∧
      ∀ image ∈ images, Retraces timeline k (k + 1) image := by
    cases h with
    | still hsame =>
      rw [hsame]
      exact ⟨hk.mono (Nat.le_refl _) (Nat.le_succ _), by simp⟩
    | record hfits hreplays hpending himage himages =>
      have hrecord := hk.record hbefore hfits hreplays hpending
      have hlast : Retraces timeline k (k + 1) (timeline (k + 1)).image := by
        rcases himage with himage | hdropped
        · rw [himage]
          exact hrecord
        · rw [hdropped]
          exact Retraces.nil (by rw [hdropped]) (Nat.le_succ _)
      refine ⟨hlast, fun image hmem => ?_⟩
      rcases himages image hmem with rfl | rfl
      · exact hrecord
      · exact hlast
  exact ⟨hnext.1.reached hafter, hnext.2⟩

/-! ## Watched queues -/

/-- What the log of a watched queue holds and what is pending. -/
def moment (queue : Queue WatchedStore) : Moment :=
  ⟨match queue.log with
    | some log => log.store.memory.bytes
    | none => [], queue.pending⟩

/-- A watched queue on which nothing fails, with its log in order. -/
def Watched (queue : Queue WatchedStore) : Prop :=
  queue.moment.Ordered ∧ ∃ log, queue.log = some log ∧ log.format = queueFormat ∧
    log.store.Keeps queue.moment.image

theorem watched_mk {path : Option String} {log : Log WatchedStore} {pending : List Message}
    {image : Bytes} {replay : QueueReplay} (hformat : log.format = queueFormat)
    (hkept : log.store.Keeps image) (hreplays : Replays image replay)
    (hpending : replay.pending.toList = pending) :
    (⟨path, some log, pending⟩ : Queue WatchedStore).Watched ∧
      (⟨path, some log, pending⟩ : Queue WatchedStore).moment = ⟨image, pending⟩ := by
  obtain ⟨rfl, -⟩ := id hkept
  exact ⟨⟨⟨replay, hreplays, hpending⟩, log, rfl, hformat, hkept⟩, rfl⟩

theorem attach_watched (options : StoreOptions) :
    ∃ queue, attach options (WatchedStore.empty, []) = .ok queue (WatchedStore.empty, []) ∧
      queue.Watched ∧ queue.moment = ⟨[], []⟩ := by
  have hread := @WatchedStore.readAll_eq _ _ [] WatchedStore.keeps_empty
  refine ⟨⟨none, some ⟨WatchedStore.empty, queueFormat, options.syncOnWrite⟩, []⟩, ?_,
    watched_mk rfl WatchedStore.keeps_empty .nil rfl⟩
  rw [attach_eq, Log.recover_of_whole hread (scan_nil queueFormat) rfl]
  rfl

variable {queue : Queue WatchedStore}

theorem enqueue_watched (h : queue.Watched) (images : List Bytes) (message : Message) :
    (∃ e, enqueue message (queue, images) = .error e (queue, images)) ∨
      ∃ queue' news, enqueue message (queue, images) = .ok () (queue', images ++ news) ∧
        queue'.Watched ∧ Advance queue.moment queue'.moment news := by
  obtain ⟨⟨replay, hreplays, hpending⟩, log, hlog, hformat, hkept⟩ := h
  rw [enqueue_eq hlog]
  cases hencode : message.encode with
  | error e => exact .inl ⟨e, rfl⟩
  | ok payload =>
    obtain ⟨hmessage, rfl⟩ := Message.encode_eq_ok_iff.1 hencode
    dsimp only
    by_cases hfits : message.toBytes.length ≤ Frame.maxPayload
    · right
      obtain ⟨store, news, happend, hkept', hnews⟩ :=
        @Log.append_watched log _ images hkept .enqueue _ hfits
      rw [hformat] at hkept' hnews
      have hreplays' := hreplays.enqueue hmessage hfits
      have hpending' : (replay.pending.push message).toList = queue.pending ++ [message] := by
        rw [Fifo.toList_push, hpending]
        rfl
      obtain ⟨hwatched, hmoment⟩ := @watched_mk queue.path { log with store }
        (queue.pending ++ [message]) _ _ hformat hkept' hreplays' hpending'
      rw [happend]
      refine ⟨_, news, rfl, hwatched, ?_⟩
      rw [hmoment]
      exact .record hfits hreplays' hpending' (.inl rfl) fun image hmem => .inl (hnews image hmem)
    · left
      have hlong : Frame.encode log.format.magic .enqueue message.toBytes =
          .error (.messageTooLarge message.toBytes.length Frame.maxPayload) := by
        rw [Frame.encode, if_pos (by omega)]
      rw [Log.append_eq, hlong]
      dsimp only
      rw [← hlog]
      exact ⟨_, rfl⟩

/-- A dequeue adds the record of the head, and drops the log behind the last one. -/
theorem dequeue_watched (h : queue.Watched) (images : List Bytes) :
    ∃ given queue' news, dequeue (queue, images) = .ok given (queue', images ++ news) ∧
      queue'.Watched ∧ Advance queue.moment queue'.moment news := by
  obtain ⟨⟨replay, hreplays, hpending⟩, log, hlog, hformat, hkept⟩ := id h
  cases hcase : queue.pending with
  | nil =>
    rw [dequeue_of_nil hlog hcase]
    exact ⟨none, queue, [], by rw [List.append_nil], h, .still rfl⟩
  | cons head rest =>
    have hfits : (QueueReplay.dequeuePayload head.id).length ≤ Frame.maxPayload := by
      rw [QueueReplay.length_dequeuePayload]
      decide
    obtain ⟨pending, hpop, hrest⟩ := Fifo.pop?_of_toList (hpending.trans hcase)
    have hreplays' := hreplays.dequeue hpop
    obtain ⟨store, news, happend, hkept', hnews⟩ :=
      @Log.append_watched log _ images hkept .dequeue _ hfits
    rw [hformat] at hkept' hnews
    rw [dequeue_of_cons hlog hcase, happend]
    dsimp only
    rw [resetDrained_eq rfl]
    by_cases hdrained : rest = []
    · obtain ⟨store', hreset, hempty⟩ :=
        @Log.reset_watched { log with store } _ (images ++ news) hkept'
      obtain ⟨hwatched, hmoment⟩ :=
        @watched_mk queue.path { log with store := store' } [] _ _ hformat hempty .nil rfl
      rw [if_pos hdrained, hreset, hdrained]
      refine ⟨_, _, news ++ [[]], by rw [List.append_assoc], hwatched, ?_⟩
      rw [hmoment]
      refine .record hfits hreplays' (hrest.trans hdrained) (.inr rfl) fun image hmem => ?_
      rcases List.mem_append.1 hmem with hmem | hmem
      · exact .inl (hnews image hmem)
      · exact .inr (List.mem_singleton.1 hmem)
    · obtain ⟨hwatched, hmoment⟩ :=
        @watched_mk queue.path { log with store } rest _ _ hformat hkept' hreplays' hrest
      rw [if_neg hdrained]
      refine ⟨_, _, news, rfl, hwatched, ?_⟩
      rw [hmoment]
      exact .record hfits hreplays' hrest (.inl rfl) fun image hmem => .inl (hnews image hmem)

/-- **One call** keeps a watched queue in order, and its images are those of an advance. -/
theorem next_watched (h : queue.Watched) (images : List Bytes) (call : QueueCall) :
    ∃ news, (call.next (queue, images)).2 = images ++ news ∧
      (call.next (queue, images)).1.Watched ∧
      Advance queue.moment (call.next (queue, images)).1.moment news := by
  have hstill : ∃ news, images = images ++ news ∧ queue.Watched ∧
      Advance queue.moment queue.moment news := ⟨[], (List.append_nil _).symm, h, .still rfl⟩
  have hopen : queue.isClosed = false := by
    obtain ⟨-, log, hlog, -⟩ := h
    rw [isClosed, hlog, Option.isNone_some]
  cases call with
  | enqueue message =>
    simp only [QueueCall.next, outcome, QueueCall.act, bind, EStateM.bind]
    rcases enqueue_watched h images message with ⟨e, hrun⟩ | ⟨queue', news, hrun, hnext⟩
    · rw [hrun]
      exact hstill
    · rw [hrun]
      exact ⟨news, rfl, hnext⟩
  | dequeue =>
    simp only [QueueCall.next, outcome, QueueCall.act, bind, EStateM.bind]
    obtain ⟨given, queue', news, hrun, hnext⟩ := dequeue_watched h images
    rw [hrun]
    exact ⟨news, rfl, hnext⟩
  | peek =>
    simp only [QueueCall.next, outcome, QueueCall.act, observe, peek, hopen]
    exact hstill
  | snapshot limit =>
    simp only [QueueCall.next, outcome, QueueCall.act, observe, snapshot, hopen]
    exact hstill

/-! ## A run -/

/-- The images between two states of a run, from the one that stands in the log at the first. -/
def imagesSince (s s' : Queue WatchedStore × List Bytes) : List Bytes :=
  s.1.moment.image :: s'.2.drop s.2.length

/-- The states of a run: after none of its calls, after the first, and so on. -/
def after (calls : List QueueCall) (s : Queue WatchedStore × List Bytes) (k : Nat) :
    Queue WatchedStore × List Bytes := QueueCall.run (calls.take k) s

section

variable {calls : List QueueCall} {s : Queue WatchedStore × List Bytes} {k : Nat}

theorem after_succ (h : k < calls.length) : after calls s (k + 1) = calls[k].next (after calls s k) := by
  rw [after, List.take_succ_eq_append_getElem h, QueueCall.run, List.foldl_append]
  rfl

/-- **A run** stays in order, and every image since one of its moments retraces it from there on. -/
theorem retraces_run (h : s.1.Watched) (hempty : s.1.moment = ⟨[], []⟩) (hk : k ≤ calls.length) :
    let timeline i := (after calls s i).1.moment
    (after calls s k).1.Watched ∧ Retraces timeline k k (timeline k).image ∧
      ∀ i ≤ k, (after calls s i).2 <+: (after calls s k).2 ∧
        ∀ image ∈ imagesSince (after calls s i) (after calls s k),
          Retraces timeline i k image := by
  intro timeline
  induction k with
  | zero =>
    have hstart : Retraces timeline 0 0 (timeline 0).image := by
      show Retraces timeline 0 0 s.1.moment.image
      rw [hempty]
      exact .nil (congrArg Moment.pending hempty) (Nat.le_refl _)
    refine ⟨h, hstart, fun i hi => ?_⟩
    obtain rfl := Nat.le_zero.1 hi
    refine ⟨List.prefix_rfl, fun image hmem => ?_⟩
    rw [imagesSince, List.drop_length, List.mem_singleton] at hmem
    rw [hmem]
    exact hstart
  | succ k ih =>
    obtain ⟨hwatched, hretraces, hsince⟩ := ih (Nat.le_of_succ_le hk)
    obtain ⟨news, himages, hwatched', hadvance⟩ :=
      next_watched hwatched (after calls s k).2 calls[k]
    have hnext := @after_succ calls s k hk
    rw [← hnext] at himages hwatched' hadvance
    obtain ⟨hlast, hnews⟩ :=
      @Advance.retraces timeline k news hadvance hwatched.1 hwatched'.1 hretraces
    -- The images since an earlier moment are those up to this call and the call's own.
    refine ⟨hwatched', hlast, fun i hi => ?_⟩
    rcases Nat.lt_or_eq_of_le hi with hearlier | rfl
    · obtain ⟨hkept, hbefore⟩ := hsince i (by omega)
      rw [himages]
      refine ⟨hkept.trans (List.prefix_append _ _), fun image hmem => ?_⟩
      rw [imagesSince, himages, List.drop_append_of_le_length hkept.length_le, ← List.cons_append,
        List.mem_append] at hmem
      rcases hmem with hmem | hmem
      · exact (hbefore image hmem).mono (Nat.le_refl _) (Nat.le_succ _)
      · exact (hnews image hmem).mono (by omega) (Nat.le_refl _)
    · refine ⟨List.prefix_rfl, fun image hmem => ?_⟩
      rw [imagesSince, List.drop_length, List.mem_singleton] at hmem
      rw [hmem]
      exact hlast

end

/-- **A crash puts a queue back on its own timeline.** Take any calls of a queue opened over an empty
store, any image that stood in its log, within a call or between two, and leading bytes of it: a
queue opened over them has pending what was pending after some of the calls. If the image stood
there after call `i` or later and the bytes hold all that the log held then, that is after call `i`
or a later one. -/
theorem attach_of_crash (options options' : StoreOptions) (calls : List QueueCall) :
    ∃ queue, attach options (WatchedStore.empty, []) = .ok queue (WatchedStore.empty, []) ∧
      let state i := after calls (queue, []) i
      ∀ i ≤ calls.length, ∀ image ∈ imagesSince (state i) (state calls.length), ∀ n,
        ∃ recovered s, attach options' (MemoryStore.ofBytes (image.take n), ()) = .ok recovered s ∧
          ∃ j ≤ calls.length, recovered.pending = (state j).1.pending ∧
            ((state i).1.moment.image <+: image.take n → i ≤ j) := by
  obtain ⟨queue, hrun, hwatched, hempty⟩ := attach_watched options
  refine ⟨queue, hrun, fun i hi image himage n => ?_⟩
  obtain ⟨-, -, hsince⟩ := @retraces_run calls (queue, []) calls.length hwatched hempty
    (Nat.le_refl _)
  obtain ⟨j, hj, hopens, hafter⟩ := (hsince i hi).2 image himage n
  obtain ⟨recovered, s, hattach, hpending⟩ := (attach_ofBytes options' (image.take n) _).2 hopens
  exact ⟨recovered, s, hattach, j, hj, hpending, hafter i (Nat.le_refl _)⟩

/-- A dequeue that drains the queue leaves two images: one with its record, and the empty one. -/
example : (after [.enqueue ⟨⟨7⟩, [1]⟩, .dequeue]
    (⟨none, some ⟨WatchedStore.empty, queueFormat, false⟩, []⟩, []) 2).2.map List.length =
      [28, 51, 0] := by
  decide +kernel

end Queue

end Replica
