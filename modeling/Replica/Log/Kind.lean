/-
The kinds of log records and the bytes that stand for them.
-/
namespace Replica

/-- What a log record says. -/
inductive RecordKind
  /-- A message was put at the tail of the queue. -/
  | enqueue
  /-- The head of the queue was taken. -/
  | dequeue
  /-- A message was put on top of the history. -/
  | push
  deriving DecidableEq, Repr, Inhabited

namespace RecordKind

/-- The byte that stands for the kind. -/
def toByte : RecordKind → UInt8
  | enqueue => 1
  | dequeue => 2
  | push => 3

/-- The kind a byte stands for. -/
def ofByte? (b : UInt8) : Option RecordKind :=
  if b = 1 then some enqueue
  else if b = 2 then some dequeue
  else if b = 3 then some push
  else none

/-- The name of the kind. -/
def name : RecordKind → String
  | enqueue => "Enqueue"
  | dequeue => "Dequeue"
  | push => "Push"

/-- The kind with this name. -/
def ofName? (s : String) : Option RecordKind :=
  [enqueue, dequeue, push].find? (·.name = s)

@[simp] theorem ofByte?_toByte (kind : RecordKind) : ofByte? kind.toByte = some kind := by
  cases kind <;> rfl

theorem toByte_of_ofByte? {b : UInt8} {kind : RecordKind} (h : ofByte? b = some kind) :
    kind.toByte = b := by
  unfold ofByte? at h
  split at h
  · rename_i hb; cases h; exact hb.symm
  · split at h
    · rename_i hb; cases h; exact hb.symm
    · split at h
      · rename_i hb; cases h; exact hb.symm
      · cases h

end RecordKind

end Replica
