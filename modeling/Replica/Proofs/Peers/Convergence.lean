/-
Two peers converge.

Two peers that start on empty directories and whose messages have identifiers of their
own agree on everything once nothing is on its way: the history of each is what was
submitted at either, so the histories are the same but for the order, and the digests
are equal if the order of two messages in a row makes no difference to the fold.
-/
import Replica.Proofs.Peers.Delivery

namespace Replica

open Handler DataDirectory

/-! ## Starting -/

/-- Stores that were opened on an empty directory, whose path leaves room for the temporary file of
the state. -/
structure FileStores.OpenedEmpty (stores : FileStores) (config : Config) (fold : Fold)
    (disk : FileSystem) : Prop where
  isDirectory : disk.isDirectory config.dataDirectory = true
  empty : ∀ here, disk.Leads config.dataDirectory.toList here →
    ∀ name, disk.entry? (here ++ [name]) = none
  room : Route.Fits (Path.temporary (statePath config.dataDirectory))
  opened : ∃ disk', FileStores.open config fold disk = .ok stores disk'

namespace Peer

variable {fold : Fold} {stores : FileStores} {policy : RecordingPolicy} {peer : Peer} {a : Account}

/-- A peer that has been started over open stores. -/
def start (stores : FileStores) (policy : RecordingPolicy) : Peer :=
  { coordinator := { stores, policy, state := .running } }

theorem holds_start {config : Config} {disk : FileSystem}
    (h : stores.OpenedEmpty config fold disk) (hpolicy : policy.IsDeduplicating) :
    (start stores policy).Holds fold ⟨[], [], []⟩ := by
  have hfits := FileSystem.fits_of_isDirectory h.isDirectory
  obtain ⟨here, hleads⟩ := (FileSystem.isDirectory_iff_leads hfits).1 h.isDirectory
  have hempty := Life.directorySays_of_empty fold hfits hleads (h.empty here hleads)
  obtain ⟨disk', hopened⟩ := h.opened
  rcases FileStores.open_of_says config hempty with ⟨stores', hrun, hsaid⟩ | ⟨e, disk'', hrun, -⟩
  · rw [hrun] at hopened
    cases hopened
    exact ⟨rfl, hpolicy, rfl, nofun, ⟨_, here, _, h.room, hsaid, rfl⟩, .nil⟩
  · rw [hrun] at hopened
    cases hopened

/-! ## What a sound peer tells -/

theorem Holds.pending_eq (h : peer.Holds fold a) : peer.pending = a.pending := by
  obtain ⟨path, here, snapshot, -, hsaid, -⟩ := h.stores
  exact hsaid.pending

theorem Holds.digest_eq (h : peer.Holds fold a) (hidle : peer.IsIdle) :
    peer.coordinator.digest = .ok (fold.digest a.history) := by
  obtain ⟨path, here, snapshot, -, hsaid, hdigest⟩ := h.stores
  have howing : peer.owing = [] := by rw [owing, hidle]
  rw [howing, List.append_nil] at hdigest
  rw [Coordinator.digest, hsaid.digest_eq, ← hdigest]
  rfl

theorem Holds.history_perm (h : peer.Holds fold a) (hidle : peer.IsIdle) :
    a.history.Perm (peer.submitted ++ a.received) := by
  have hhistory := h.history
  rwa [creating, hidle, List.append_nil] at hhistory

/-- **History and digest are in order**: the history has no identifier twice, and with no handler call
under way the digest is that of the history. -/
def IsConsistent (fold : Fold) (peer : Peer) : Prop :=
  (peer.history.map (·.id)).Nodup ∧
    (peer.IsIdle → peer.coordinator.digest = .ok (fold.digest peer.history))

end Peer

namespace Peers

open Peer

variable {fold : Fold} {peers : Peers} {a b : Account}

/-- **Each message submitted at a peer** is in its history, and once in what is pending, in hand, in the
inbox of the other peer and in the history of the other, taken together. -/
def Locates (sender receiver : Peer) : Prop :=
  ∀ message ∈ sender.submitted, message ∈ sender.history ∧
    (sender.pending ++ sender.inHand.toList ++ receiver.inbox.messages ++ receiver.history).count
      message = 1

/-- **Two peers agree**: their histories are the same but for the order, and their digests are equal. -/
def Agree (peers : Peers) : Prop :=
  peers.near.history.Perm peers.far.history ∧
    peers.near.coordinator.digest = peers.far.coordinator.digest

theorem sound_start {stores stores' : FileStores} {config config' : Config} {disk disk' : FileSystem}
    (hstores : stores.OpenedEmpty config fold disk) (hstores' : stores'.OpenedEmpty config' fold disk')
    {policy policy' : RecordingPolicy} (hpolicy : policy.IsDeduplicating)
    (hpolicy' : policy'.IsDeduplicating) :
    Sound fold ⟨start stores policy, start stores' policy'⟩ ⟨[], [], []⟩ ⟨[], [], []⟩ :=
  ⟨holds_start hstores hpolicy, holds_start hstores' hpolicy', rfl, rfl, nofun⟩

theorem Sound.isConsistent (h : peers.Sound fold a b) (hdistinct : peers.Distinct []) :
    peers.near.IsConsistent fold := by
  refine ⟨?_, fun hidle => ?_⟩
  · have hsublist : (peers.near.submitted ++ a.received).Sublist
        (peers.near.submitted ++ peers.far.submitted ++ []) := by
      rw [List.append_nil, h.inward, arrived, List.append_assoc, List.append_assoc]
      exact (List.sublist_append_left ..).append_left _
    have hboth := hdistinct.sublist (hsublist.map _)
    have hall := (h.near.history.map (·.id)).nodup_iff.2 hboth
    rw [List.map_append] at hall
    rw [h.near.history_eq]
    exact hall.of_append_left
  · rw [h.near.history_eq]
    exact h.near.digest_eq hidle

theorem Sound.locates (h : peers.Sound fold a b) (hdistinct : peers.Distinct [])
    (hnear : peers.near.IsIdle) (hfar : peers.far.IsIdle) : Locates peers.near peers.far := by
  intro message hmessage
  rw [h.near.history_eq, h.near.pending_eq, h.far.history_eq]
  have hhere := h.near.history_perm hnear
  have hthere := (h.far.history_perm hfar).count_eq message
  have hplaces := congrArg (List.count message) h.outward
  have honce := List.nodup_iff_count_le_one.1 (List.Nodup.of_map _ hdistinct) message
  have hsubmitted := List.one_le_count_iff.2 hmessage
  rw [arrived, leaving, arriving, hfar, unqueued, hnear] at hplaces
  simp only [List.count_append, List.count_nil] at hthere hplaces honce ⊢
  exact ⟨hhere.mem_iff.2 (List.mem_append_left _ hmessage), by omega⟩

theorem Sound.agree (h : peers.Sound fold a b)
    (hcomm : ∀ digest m m', fold.step (fold.step digest m) m' = fold.step (fold.step digest m') m)
    (hnear : peers.near.IsIdle) (hfar : peers.far.IsIdle) (hneardrained : peers.near.IsDrained)
    (hfardrained : peers.far.IsDrained) : peers.Agree := by
  have hreceived {sender receiver : Peer} {a b : Account} (hdelivers : Delivers sender receiver a b)
      (hsender : sender.IsIdle) (hreceiver : receiver.IsIdle) (hpending : a.pending = [])
      (hhand : sender.inHand = none) (hinbox : receiver.inbox.messages = []) :
      sender.submitted = b.received := by
    rw [hdelivers, arrived, leaving, arriving, hreceiver, unqueued, hsender, hpending, hhand, hinbox]
    simp
  obtain ⟨hpending, hhand, hinbox⟩ := hneardrained
  obtain ⟨hpending', hhand', hinbox'⟩ := hfardrained
  rw [h.near.pending_eq] at hpending
  rw [h.far.pending_eq] at hpending'
  have hout := hreceived h.outward hnear hfar hpending hhand hinbox'
  have hin := hreceived h.inward hfar hnear hpending' hhand' hinbox
  have hperm : a.history.Perm b.history := by
    refine (h.near.history_perm hnear).trans (.trans ?_ (h.far.history_perm hfar).symm)
    rw [hout, hin]
    exact List.perm_append_comm
  refine ⟨?_, ?_⟩
  · rw [h.near.history_eq, h.far.history_eq]
    exact hperm
  · rw [h.near.digest_eq hnear, h.far.digest_eq hfar, Fold.digest, Fold.digest,
      hperm.foldl_eq' fun m _ m' _ digest => hcomm digest m m']

/-- **Two peers converge.** Two coordinators that run on empty directories with deduplicating policies,
each delivering to the other, and any fold to which the order of two messages in a row makes no
difference; any messages with identifiers of their own that fit in a record, so that no call on the
stores fails; any order of submissions, moves of handler calls, takes, sends and receptions. The history
of neither has an identifier twice. Between handler calls the digest of each is that of its history, and
each message is where it has to be; once nothing is on its way the two agree. -/
theorem run_converges
    (hcomm : ∀ digest m m', fold.step (fold.step digest m) m' = fold.step (fold.step digest m') m)
    {stores stores' : FileStores} {config config' : Config} {disk disk' : FileSystem}
    (hstores : stores.OpenedEmpty config fold disk) (hstores' : stores'.OpenedEmpty config' fold disk')
    {policy policy' : RecordingPolicy} (hpolicy : policy.IsDeduplicating)
    (hpolicy' : policy'.IsDeduplicating) {steps : List (Side × Act)}
    (hdistinct : ((submissions steps).map (·.id)).Nodup)
    (hfits : ∀ message ∈ submissions steps, message.Fits) :
    let peers := run steps ⟨start stores policy, start stores' policy'⟩
    (∀ side, (peers.on side).IsConsistent fold) ∧
      (peers.near.IsIdle → peers.far.IsIdle →
        (∀ side, Locates (peers.on side) (peers.on side.other)) ∧
          (peers.near.IsDrained → peers.far.IsDrained → peers.Agree)) := by
  intro peers
  have hstart := sound_start hstores hstores' hpolicy hpolicy'
  obtain ⟨⟨a, b, hsound⟩, hapart⟩ := sound_run hstart hdistinct hfits
  have hsound : peers.Sound fold a b := hsound
  refine ⟨fun side => ?_, fun hnear hfar => ⟨fun side => ?_, hsound.agree hcomm hnear hfar⟩⟩
  · cases side with
    | near => exact hsound.isConsistent hapart
    | far => exact hsound.swap.isConsistent hapart.swap
  · cases side with
    | near => exact hsound.locates hapart hnear hfar
    | far => exact hsound.swap.locates hapart.swap hfar hnear

/-! ## Crosswise -/

/-- One message is submitted at each peer, taken from the queue before its call has returned, sent, and
received while the other is. -/
def crosswise : List (Side × Act) :=
  let deliver (side : Side) (message : Message) : List (Side × Act) :=
    [(side, .submit message)] ++ List.replicate 4 (side, .proceed) ++
      [(side, .take), (side, .proceed), (side, .send)]
  deliver .near ⟨⟨1⟩, []⟩ ++ deliver .far ⟨⟨2⟩, []⟩ ++ [(.near, .receive), (.far, .receive)] ++
    List.replicate 5 (.near, .proceed) ++ List.replicate 5 (.far, .proceed)

/-- Whether both come to hold both messages, with nothing on its way any more. -/
def delivered : Bool :=
  match FileStores.open { dataDirectory := "/data" } .sum Life.emptyData with
  | .error .. => false
  | .ok stores _ =>
    let peers := crosswise.foldl stepReading
      ⟨start stores { deduplicates := true }, start stores { deduplicates := true }⟩
    peers.near.IsIdle ∧ peers.far.IsIdle ∧ peers.near.IsDrained ∧ peers.far.IsDrained ∧
      peers.near.history.map (·.id) = [⟨1⟩, ⟨2⟩] ∧ peers.far.history.map (·.id) = [⟨2⟩, ⟨1⟩]

/-- Both come to hold both messages. -/
theorem run_converges_crosswise :
    ∃ stores disk, FileStores.open { dataDirectory := "/data" } .sum Life.emptyData = .ok stores disk ∧
      ∃ peers,
        run crosswise
          ⟨start stores { deduplicates := true }, start stores { deduplicates := true }⟩ = peers ∧
        peers.near.history.map (·.id) = [⟨1⟩, ⟨2⟩] ∧ peers.far.history.map (·.id) = [⟨2⟩, ⟨1⟩] ∧
          peers.Agree := by
  have heval : delivered = true := by decide +kernel
  unfold delivered at heval
  split at heval
  · cases heval
  · rename_i stores disk hopen
    have hstores : stores.OpenedEmpty { dataDirectory := "/data" } .sum Life.emptyData :=
      ⟨by decide +kernel, fun _ hleads => Life.entry?_emptyData hleads, by decide +kernel, disk, hopen⟩
    have hpolicy : RecordingPolicy.IsDeduplicating { deduplicates := true } := ⟨rfl, rfl, rfl, rfl⟩
    have hdistinct : ((submissions crosswise).map (·.id)).Nodup := by decide
    have hfits : ∀ message ∈ submissions crosswise, message.Fits := by
      unfold Message.Fits
      decide +kernel
    have hcomm (digest : Digest) (m m' : Message) :
        Fold.sum.step (Fold.sum.step digest m) m' = Fold.sum.step (Fold.sum.step digest m') m := by
      simp only [Fold.sum, UInt64.add_assoc, UInt64.add_comm m.id.value]
    have hapart : Distinct
        ⟨start stores { deduplicates := true }, start stores { deduplicates := true }⟩
        (submissions crosswise) := hdistinct
    have hrun := run_eq_foldl_stepReading (sound_start hstores hstores hpolicy hpolicy) hapart hfits
    obtain ⟨-, hquiet⟩ := run_converges hcomm hstores hstores hpolicy hpolicy hdistinct hfits
    rw [← hrun] at heval
    obtain ⟨hnear, hfar, hneardrained, hfardrained, hhistories⟩ := of_decide_eq_true heval
    exact ⟨stores, disk, hopen, _, rfl, hhistories.1, hhistories.2,
      (hquiet hnear hfar).2 hneardrained hfardrained⟩

end Peers

end Replica
