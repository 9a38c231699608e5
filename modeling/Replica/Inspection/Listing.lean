/-
Listing the messages of a queue or a history file.
-/
import Replica.Inspection.Source
import Replica.Text.Columns
import Replica.Text.Document

namespace Replica

/-- The greatest number of payload bytes a preview shows. -/
def previewLength : Nat := 32

/-- Whether a byte is a printable ASCII character or a blank. -/
def isPlainByte (b : UInt8) : Bool := 32 ≤ b && b ≤ 126

/-- The start of a payload, as text if all of it is printable and in hexadecimal otherwise. -/
def preview (payload : Bytes) : String :=
  let head := payload.take previewLength
  let ellipsis := if previewLength < payload.length then "..." else ""
  if head.all isPlainByte then
    String.ofList (head.map fun b => Char.ofNat b.toNat) ++ ellipsis
  else "0x" ++ hexText head ++ ellipsis

/-- A listed message. -/
structure ListedMessage where
  /-- Zero for the head of the queue or the top of the history. -/
  position : Nat
  id : MessageId
  payloadLength : Nat
  preview : String
  deriving DecidableEq, Repr, Inhabited

namespace ListedMessage

/-- The first messages, numbered from `position` on; all of them without a limit. -/
def number (position : Nat) : List Message → List ListedMessage
  | [] => []
  | message :: rest =>
    ⟨position, message.id, message.payload.length, Replica.preview message.payload⟩
      :: number (position + 1) rest

/-- The first messages; all of them without a limit. -/
def select (messages : List Message) (limit : Option Nat) : List ListedMessage :=
  number 0 (match limit with
    | some n => messages.take n
    | none => messages)

/-- The pending messages at a data directory, oldest first. -/
def ofQueue (disk : FileSystem) (path : String) (limit : Option Nat) :
    Except InspectionError (List ListedMessage) := do
  Inspection.requireStores disk path
  match ← Inspection.readQueue disk path with
  | some (_, replay) => return select replay.pending.toList limit
  | none => return []

/-- The applied messages at a data directory, most recent first. -/
def ofHistory (disk : FileSystem) (path : String) (limit : Option Nat) :
    Except InspectionError (List ListedMessage) := do
  Inspection.requireStores disk path
  match ← Inspection.readHistory disk path with
  | some (_, entries) => return select entries.reverse limit
  | none => return []

/-- The line about a message. -/
def line (m : ListedMessage) : String :=
  let position := Text.padLeft 4 (toString m.position)
  let id := Text.padRight 20 (toString m.id.value.toNat)
  let length := Text.padRight 8 (toString m.payloadLength)
  s!"  [{position}] id={id} len={length} {m.preview}\n"

/-- The listing as text. -/
def text (title : String) (messages : List ListedMessage) : String :=
  s!"{title}: {messages.length} messages\n" ++ String.join (messages.map line)

/-- The listing as a document. -/
def document (messages : List ListedMessage) : Text.Document :=
  .list (messages.map fun m => .record [
    ("position", .number m.position),
    ("id", .number m.id.value.toNat),
    ("payload_len", .number m.payloadLength),
    ("preview", .text m.preview)])

end ListedMessage

end Replica
