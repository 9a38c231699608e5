/-
Steps on files and on the stores of a workbench.
-/
import Replica.Workbench.Bench

namespace Replica.Workbench

/-! ## Files -/

/-- Writes behind the end of an existing file. -/
def appendExisting (path : String) (data : Bytes) : DiskAction Unit := do
  let entry ← FileSystem.openRead path
  FileSystem.append entry data

/-- Gives an existing file the bytes that `change` makes of those it has. -/
def alter (path : String) (change : Bytes → Bytes) : DiskAction Unit := do
  match (← get).readAll path with
  | .error e => throw e
  | .ok data => FileSystem.writeAll path (change data)

/-- The bytes with some bits of one flipped. -/
def flipByte (offset : Nat) (mask : UInt8) (data : Bytes) : Bytes :=
  data.modify offset (· ^^^ mask)

/-- The bytes without the last `n`. -/
def chopBytes (n : Nat) (data : Bytes) : Bytes := data.take (data.length - n)

/-- A change made by hand. -/
def byHand (act : DiskAction Unit) : Action := onDisk .os (fun _ => .done) act

/-- A step on files. -/
def fileStep : FileStep → Action
  | .write path data => byHand (FileSystem.writeAll path data)
  | .append path data => byHand (appendExisting path data)
  | .flip path offset mask => byHand (alter path (flipByte offset mask))
  | .chop path n => byHand (alter path (chopBytes n))
  | .remove path => byHand (FileSystem.remove path)
  | .makeDirectories path => byHand (FileSystem.makeDirectories path)
  | .removeDirectory path => byHand (FileSystem.removeDirectory path)
  | .linkFull path => byHand (FileSystem.linkFull path)
  | .read path => fun w => (.bytes (w.disk.readAll path).toOption, w)
  | .replace path data =>
    onDisk (fun e => .storage (.io (.os e))) (fun _ => .done) (FileSystem.replace path data)
  | .removeStale path =>
    onDisk (fun e => .storage (.io (.os e))) .truth (FileSystem.removeStale path)

/-! ## Byte stores -/

/-- A step on a byte store. -/
def deviceStep {σ ω : Type} [ByteStore σ ω] : DeviceStep → EStateM StorageError (σ × ω) Reply
  | .append data => do return .number (← ByteStore.append data)
  | .readAt offset len => do
    return .bytes (some (← observe fun (s, w) => ByteStore.readAt s w offset len))
  | .readAll => do return .bytes (some (← observe fun (s, w) => ByteStore.readAll s w))
  | .size => do
    let (s, w) ← get
    return .number (ByteStore.size s w)
  | .flush => do ByteStore.flush; return .done
  | .sync => do ByteStore.sync; return .done
  | .truncate size => do ByteStore.truncate size; return .done

/-- A step on the byte store in memory. -/
def memoryStep (step : DeviceStep) : Action :=
  memorySlot.act Failure.storage id (deviceStep step)

/-- A step on the open file. -/
def openFileStep (step : DeviceStep) : Action :=
  fileSlot.act Failure.storage id (deviceStep step)

/-- Puts a byte store in memory on the bench. -/
def openMemory (data : Bytes) (plan : FaultPlan) : StateM Workbench Device := fun w =>
  let (number, world) := w.world.addMemory { bytes := data, plan }
  (.memory number, { w with world, memory := some (.memory number) })

/-- Opens a file in one of the ways. -/
def openAs : OpenMode → String → DiskAction OpenFile
  | .plain, path => OpenFile.open path
  | .withDirectories, path => OpenFile.openWithDirectories path
  | .readOnly, path => OpenFile.openReadOnly path

/-- Puts an open file on the bench. -/
def openFile (mode : OpenMode) (path : String) : Action :=
  fileSlot.fill Failure.storage (fun _ => .path) do
    let file ← World.diskPart.lift (fun e => .io (.os e)) (openAs mode path)
    return (.file file, file.path)

/-! ## Logs, queues, histories -/

/-- Opens a thing in a place, over a file or over a new byte store in memory. -/
def openOver {τ ε α : Type} (slot : Slot τ) (wrap : ε → Failure) (reply : τ → α → Reply)
    (source : Source) (overFile : String → EStateM ε World (τ × α))
    (overDevice : EStateM ε (Device × World) (τ × α)) : Action :=
  match source with
  | .file path => slot.fill wrap reply (overFile path)
  | .memory data plan => fun w =>
    let w := slot.put none w
    let (device, w) := openMemory data plan w
    slot.fill wrap reply (fun world =>
      match overDevice (device, world) with
      | .ok opened (_, world') => .ok opened world'
      | .error e (_, world') => .error e world') w

/-- Opens the log of a format on a device. -/
def openLog (format : LogFormat) (syncOnWrite : Bool) :
    EStateM StoreError (Device × World) (Log Device × List LogRecord) := do
  let records ← Log.recover format
  let (device, _) ← get
  return (⟨device, format, syncOnWrite⟩, records)

/-- Opens the log of a format in a file. -/
def openLogFile (format : LogFormat) (syncOnWrite : Bool) (path : String) :
    EStateM Failure World (Log Device × List LogRecord) := fun w =>
  match OpenFile.open path w.disk with
  | .error e disk => .error (.storage (.io (.os e))) { w with disk }
  | .ok file disk =>
    match openLog format syncOnWrite (.file file, { w with disk }) with
    | .ok opened (_, w') => .ok opened w'
    | .error e (_, w') => .error (.store e) w'

/-- A step on the log. -/
def logStep : LogStep → Action
  | .open source format syncOnWrite =>
    openOver logSlot id (fun _ records => .records records) source
      (openLogFile format syncOnWrite) ((openLog format syncOnWrite).adaptExcept .store)
  | .append kind payload => logSlot.act Failure.store .number (Log.append kind payload)
  | .reset => logSlot.act Failure.store (fun _ => .done) Log.reset
  | .sync => logSlot.act Failure.store (fun _ => .done) Log.sync
  | .size => logSlot.look fun log world => .number (log.size world)

/-- Opens a queue file. -/
def openQueueFile (options : StoreOptions) (path : String) :
    EStateM StoreError World (Queue Device × Unit) := do
  let queue ← World.diskPart.run (Queue.openFile path options)
  return (queue.map .file, ())

/-- A step on the queue. -/
def queueStep : QueueStep → Action
  | .open source options =>
    openOver queueSlot Failure.store (fun queue _ => .queueOpened queue.length queue.path) source
      (openQueueFile options) do return (← Queue.attach options, ())
  | .enqueue message => queueSlot.act Failure.store (fun _ => .done) (Queue.enqueue message)
  | .dequeue => queueSlot.act Failure.store .message Queue.dequeue
  | .peek => queueSlot.look fun queue _ => .ofExcept .store .message queue.peek
  | .snapshot limit => queueSlot.look fun queue _ =>
    .ofExcept .store .messages (queue.snapshot limit)
  | .info => queueSlot.look fun queue _ => .info queue.length queue.isClosed
  | .close => queueSlot.act Failure.store (fun _ => .done) Queue.close

/-- Opens a history file. -/
def openHistoryFile (options : StoreOptions) (path : String) :
    EStateM StoreError World (History Device × Unit) := do
  let history ← World.diskPart.run (History.openFile path options)
  return (history.map .file, ())

/-- A step on the history. -/
def historyStep : HistoryStep → Action
  | .open source options =>
    openOver historySlot Failure.store (fun history _ => .historyOpened history.length) source
      (openHistoryFile options) do return (← History.attach options, ())
  | .push message => historySlot.act Failure.store (fun _ => .done) (History.push message)
  | .read queries => historySlot.look fun history _ =>
    .ofExcept .store (fun reader => .findings (queries.map reader.ask)) history.reader
  | .info => historySlot.look fun history _ => .info history.length history.isClosed
  | .close => historySlot.act Failure.store (fun _ => .done) History.close

/-! ## State stores and locks -/

/-- The state store and the file system. -/
def statePart : Part (StateStore × World) (StateStore × FileSystem) :=
  ⟨fun (state, w) => (state, w.disk), fun (state, disk) (_, w) => (state, { w with disk })⟩

/-- A step on the state store. -/
def stateStep : StateStep → Action
  | .open path fold =>
    stateSlot.fill Failure.store (fun state (_ : Unit) => .stateOpened state.snapshot state.path) do
      let state ← World.diskPart.run (StateStore.openFile path fold)
      return (state, ())
  | .read path => fun w =>
    (.ofExcept .store .snapshot (StateStore.readSnapshot w.disk path), w)
  | .fold message => stateSlot.act Failure.store .digest (statePart.run (StateStore.apply message))
  | .digest => stateSlot.look fun state _ =>
    .ofExcept .store (fun digest => .text digest.text) state.digest
  | .snapshot => stateSlot.look fun state _ => .ofExcept .store .snapshot state.current
  | .isClosed => stateSlot.look fun state _ => .truth state.isClosed
  | .close => stateSlot.act Failure.store (fun _ => .done) do
    modify fun (state, w) => (state.close, w)

/-- Gives back the lock held under a name, if there is one. -/
def dropLock (slot : String) (w : Workbench) : Bool × Workbench :=
  match w.locks.get? slot with
  | none => (false, w)
  | some directory =>
    (true, { w.withDisk (directory.release w.disk) with locks := w.locks.erase slot })

/-- A step on locks. A lock held under the name is given back once the new one is taken. -/
def lockStep : LockStep → Action
  | .open slot path createIfMissing => fun w =>
    match DataDirectory.open path createIfMissing w.disk with
    | .error e disk => (.failed (.store e), w.withDisk disk)
    | .ok directory disk =>
      let (_, w) := dropLock slot (w.withDisk disk)
      (.paths [directory.path, DataDirectory.queuePath directory.path,
          DataDirectory.historyPath directory.path, DataDirectory.statePath directory.path],
        { w with locks := w.locks.insert slot directory })
  | .drop slot => fun w =>
    let (held, w) := dropLock slot w
    (.truth held, w)

end Replica.Workbench
