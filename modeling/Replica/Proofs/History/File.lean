/-
Histories in files.

`History.InFile` is agreement of a history with the log in the history file of a
directory. Opening the file establishes it, and a file whose log has no torn record
gives back its entries.
-/
import Replica.Proofs.ByteStore.OpenFile
import Replica.Proofs.History

namespace Replica.History

open FileSystem OpenFile

variable {disk disk' : FileSystem} {path : String} {here : Place} {name : String} {n : Nat}
  {options : StoreOptions} {history history' : History OpenFile} {entries : List Message}

/-! ## Histories that are open on their files -/

/-- A history that is open on the file under its name, which holds the entries. -/
def InFile (history : History OpenFile) (disk : FileSystem) (here : Place) (name : String)
    (entries : List Message) : Prop :=
  ∃ n, disk.entry? (here ++ [name]) = some (.file n) ∧
    Agrees (contract n disk) history disk entries

/-- The history file of a directory holds the entries; one that is not there holds none. -/
def FileSays (disk : FileSystem) (here : Place) (name : String) (entries : List Message) : Prop :=
  (disk.entry? (here ++ [name]) = none ∧ entries = []) ∨
    ∃ n image, disk.entry? (here ++ [name]) = some (.file n) ∧
      disk.contents.get? n = some image ∧ Recalls image entries

theorem FileSays.alters {touched : List String} (h : FileSays disk here name entries)
    (halters : Alters here touched disk disk') (hname : name ∉ touched) :
    FileSays disk' here name entries := by
  rcases h with ⟨hnone, hentries⟩ | ⟨n, image, hentry, hbytes, hrecalls⟩
  · exact .inl ⟨by rw [halters.entry hname, hnone], hentries⟩
  · exact .inr ⟨n, image, by rw [halters.entry hname, hentry],
      by rw [halters.contents hname hentry, hbytes], hrecalls⟩

theorem InFile.fileSays (h : history.InFile disk here name entries) :
    FileSays disk here name entries := by
  obtain ⟨n, hentry, log, image, -, -, hheld, hrecalls⟩ := h
  exact .inr ⟨n, image, hentry, hheld.bytes, hrecalls⟩

theorem InFile.alters {touched : List String} (h : history.InFile disk here name entries)
    (halters : Alters here touched disk disk') (hname : name ∉ touched) :
    history.InFile disk' here name entries := by
  obtain ⟨n, hentry, log, image, hhistory, hformat, hheld, hrecalls⟩ := h
  exact ⟨n, by rw [halters.entry hname, hentry], log, image, hhistory, hformat,
    hheld.alters hentry halters hname, hrecalls⟩

theorem inFile_of_agrees (htidy : disk.Tidy here) (hentry : disk.entry? (here ++ [name]) = some (.file n))
    (h : Agrees (contract n disk) history disk' entries) :
    history.InFile disk' here name entries ∧ Alters here [name] disk disk' := by
  obtain ⟨log, image, hhistory, hformat, hheld, hrecalls⟩ := h
  refine ⟨⟨n, ?_, log, image, hhistory, hformat, hheld.rebase, hrecalls⟩,
    alters_of_holds htidy hentry hheld⟩
  rw [hheld.entry?_eq, hentry]

/-! ## Opening -/

theorem openFile_eq (path : String) (options : StoreOptions) (disk : FileSystem) :
    openFile path options disk =
      match openWithDirectories path disk with
      | .error e disk' => .error (.ofStorageOs e) disk'
      | .ok file disk₁ =>
        match attach options (file, disk₁) with
        | .ok history (_, disk') => .ok history disk'
        | .error e (_, disk') => .error e disk' := by
  simp only [openFile, bind, EStateM.bind, EStateM.adaptExcept]
  cases openWithDirectories path disk <;> rfl

/-- **Opening a history file**, whatever it holds: the history is open on it and holds what it
holds. -/
theorem openFile_ok (h : disk.IsFilePath path here name) (htidy : disk.Tidy here)
    (hrun : openFile path options disk = .ok history disk') :
    Route.Fits path ∧ (∃ entries, history.InFile disk' here name entries) ∧
      Alters here [name] disk disk' := by
  rw [openFile_eq] at hrun
  rcases openWithDirectories_cases h htidy with
    ⟨hfits, file, n, disk₁, image, hopen, hentry, hheld, halters, -⟩ | ⟨-, e, hopen⟩
  · rw [hopen] at hrun
    dsimp only at hrun
    split at hrun
    · rename_i history' file' disk₂ hattach
      cases hrun
      obtain ⟨entries, hagrees⟩ :=
        @agrees_attach _ _ _ (contract n disk₁) _ _ _ _ _ _ _ hheld hattach
      obtain ⟨hfile, halters'⟩ := inFile_of_agrees halters.tidy hentry hagrees
      exact ⟨hfits, ⟨entries, hfile⟩, halters.trans halters'⟩
    · cases hrun
  · rw [hopen] at hrun
    cases hrun

/-- **Opening a history file that was left in order** gives back the entries. Where it fails, the file
is as it was. -/
theorem openFile_of_says (h : disk.IsFilePath path here name) (htidy : disk.Tidy here)
    (hsaid : FileSays disk here name entries) (options : StoreOptions) :
    (∃ history disk', openFile path options disk = .ok history disk' ∧
        Route.Fits path ∧ history.InFile disk' here name entries ∧ Alters here [name] disk disk') ∨
      ∃ e, openFile path options disk = .error e disk := by
  rw [openFile_eq]
  rcases openWithDirectories_cases h htidy with
    ⟨hfits, file, n, disk', image, hopen, hentry, hheld, halters, hbefore⟩ | ⟨-, e, hopen⟩
  · have hempty (hnone : entries = []) : Recalls [] entries := by
      rw [hnone]
      exact .nil
    have hrecalls := holds_of_opened hempty hheld hbefore hsaid
    rw [hopen]
    dsimp only
    rw [@attach_of_recalls _ _ _ (contract n disk') _ _ options _ _ hheld hrecalls]
    exact .inl ⟨_, _, rfl, hfits, ⟨n, hentry, _, image, rfl, rfl, hheld, hrecalls⟩, halters⟩
  · rw [hopen]
    exact .inr ⟨_, rfl⟩

/-! ## Calls -/

theorem InFile.push_ok {message : Message} {a : Unit} (h : history.InFile disk here name entries)
    (htidy : disk.Tidy here) (hrun : push message (history, disk) = .ok a (history', disk')) :
    history'.InFile disk' here name (entries ++ [message]) ∧ Alters here [name] disk disk' := by
  obtain ⟨n, hentry, hagrees⟩ := h
  exact inFile_of_agrees htidy hentry (History.push_ok hagrees hrun)

theorem InFile.push_of_fits {message : Message} (h : history.InFile disk here name entries)
    (hfits : message.Fits) : ∃ s, push message (history, disk) = .ok () s := by
  obtain ⟨n, -, log, image, rfl, -, hheld, -⟩ := h
  rw [push_eq rfl, hfits.encode]
  dsimp only
  rw [Log.append_file hheld.isOn, if_neg (Nat.not_lt.2 hfits)]
  exact ⟨_, rfl⟩

theorem InFile.push_error {message : Message} {e : StoreError}
    (h : history.InFile disk here name entries) (htidy : disk.Tidy here)
    (hrun : push message (history, disk) = .error e (history', disk')) :
    history'.InFile disk' here name entries ∧ Alters here [name] disk disk' := by
  obtain ⟨n, hentry, hagrees⟩ := h
  refine inFile_of_agrees htidy hentry (History.push_error hagrees ?_ hrun)
  obtain ⟨log, image, rfl, -, hheld, -⟩ := hagrees
  intro log' hlog' frame hencode
  cases hlog'
  obtain ⟨-, rfl⟩ := Frame.encode_eq_ok_iff.1 hencode
  exact Log.rollsBack_of_file hheld.isOn disk (Frame.toBytes_ne_nil _ _ _)

theorem InFile.push_error_isClosed {message : Message} {e : StoreError}
    (h : history.InFile disk here name entries)
    (hrun : push message (history, disk) = .error e (history', disk')) : e.isClosed = false := by
  obtain ⟨n, -, log, image, rfl, -⟩ := h
  rw [push_eq rfl] at hrun
  split at hrun
  · rename_i hencode
    cases hrun
    exact Message.encode_error_isClosed hencode
  · split at hrun
    · rename_i happend
      cases hrun
      exact Log.append_error_isClosed happend
    · cases hrun

/-- **A push in a file** depends on the bytes of that file and changes nothing else; it fails with
what is too large and with nothing else. -/
theorem push_file {log : Log OpenFile} (hlog : history.log = some log) (hon : log.store.IsOn n)
    (message : Message) (image : Bytes) :
    (∃ size limit, ∀ disk, push message (history, disk) =
        .error (.messageTooLarge size limit) (history, disk)) ∨
      ∃ history' image', ∀ disk, disk.bytes n = image →
        push message (history, disk) = .ok () (history', disk.setBytes n image') := by
  obtain ⟨_, stack, depth, ids⟩ := history
  cases hlog
  by_cases hmessage : Message.maxPayload < message.payload.length
  · refine .inl ⟨message.payload.length, Message.maxPayload, fun disk => ?_⟩
    rw [push_eq rfl, Message.encode, if_pos hmessage]
  · by_cases hfits : Frame.maxPayload < message.toBytes.length
    · refine .inl ⟨message.toBytes.length, Frame.maxPayload, fun disk => ?_⟩
      rw [push_eq rfl, Message.encode, if_neg hmessage]
      dsimp only
      rw [Log.append_file hon, if_pos hfits]
    · let frame := Frame.toBytes log.format.magic .push message.toBytes
      let appended : Log OpenFile :=
        { log with store := log.store.resized (log.store.size + frame.length) }
      refine .inr ⟨⟨some appended, message :: stack, depth + 1, ids.insert message.id⟩,
        image ++ frame, fun disk hbytes => ?_⟩
      rw [push_eq rfl, Message.encode, if_neg hmessage]
      dsimp only
      rw [Log.append_file hon, if_neg hfits, hbytes]

theorem close_file {log : Log OpenFile} (hlog : history.log = some log) (hon : log.store.IsOn n)
    (disk : FileSystem) : close (history, disk) = .ok () ({ history with log := none }, disk) := by
  unfold close
  dsimp only
  rw [hlog]
  dsimp only
  rw [Log.sync_file hon]

end Replica.History
