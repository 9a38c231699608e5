/-
CRC-32 with the reflected polynomial `0xEDB88320`, twice.

`Checksum.bitwise` is the definition: the register starts at all ones, each
byte is folded into its low bits, eight conditional shifts follow, and the
result is complemented. `checksum` is what the logs and the snapshot use: the
same fold with the eight shifts of a byte looked up in a table of 256 words.
-/
import Replica.Bytes

namespace Replica

namespace Checksum

/-- The reflected polynomial. -/
def polynomial : UInt32 := 0xEDB88320

/-- The register before the first byte. -/
def start : UInt32 := 0xFFFFFFFF

/-- Shifts one bit out of the register, folding the polynomial in if it was set. -/
def shift (register : UInt32) : UInt32 :=
  if register &&& 1 = 1 then (register >>> 1) ^^^ polynomial else register >>> 1

/-- Shifts `n` bits out of the register. -/
def shifts : Nat → UInt32 → UInt32
  | 0, register => register
  | n + 1, register => shifts n (shift register)

/-- Takes one byte into the register, bit by bit. -/
def absorb (register : UInt32) (byte : UInt8) : UInt32 :=
  shifts 8 (register ^^^ byte.toUInt32)

/-- CRC-32 of a byte string, bit by bit. -/
def bitwise (bs : Bytes) : UInt32 := ~~~ bs.foldl absorb start

/-- The register left by eight shifts, for each value of its low byte. -/
def table : Array UInt32 := Array.ofFn fun i : Fin 256 => shifts 8 (UInt32.ofNat i)

theorem size_table : table.size = 256 := Array.size_ofFn

/-- Takes one byte into the register through the table. -/
def absorbTable (register : UInt32) (byte : UInt8) : UInt32 :=
  let low := (register ^^^ byte.toUInt32).toUInt8
  have h : low.toNat < table.size := by rw [size_table]; exact low.toNat_lt
  (register >>> 8) ^^^ table[low.toNat]

end Checksum

/-- CRC-32 of a byte string. -/
def checksum (bs : Bytes) : UInt32 := ~~~ bs.foldl Checksum.absorbTable Checksum.start

end Replica
