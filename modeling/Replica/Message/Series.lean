/-
Made-up messages: one that carries its own name, and a series with consecutive
identifiers and equal payloads.
-/
import Replica.Message

namespace Replica.Message

/-- A message whose payload spells its identifier. -/
def labelled (id : MessageId) : Message :=
  ⟨id, s!"payload-{id.value.toNat}".toUTF8.toList⟩

/-- The bytes from zero on, starting again after 255. -/
def ramp (size : Nat) : Bytes := (List.range size).map UInt8.ofNat

/-- `count` messages with consecutive identifiers from `first` on and payloads of `size` bytes. -/
def series (first : MessageId) (count size : Nat) : List Message :=
  let payload := ramp size
  (List.range count).map fun i => ⟨⟨first.value + UInt64.ofNat i⟩, payload⟩

end Replica.Message
