/-
Byte strings, the little-endian numbers the record formats are made of, and
hexadecimal text.

`littleEndian size n` writes `n` in exactly `size` bytes and
`fromLittleEndian` reads any byte string back as a number. The two undo each
other (`fromLittleEndian_littleEndian`, `littleEndian_fromLittleEndian`), which
is what every codec in the library rests on.
-/
namespace Replica

/-- A byte string. -/
abbrev Bytes := List UInt8

/-- The `size` low bytes of `n`, least significant first. -/
def littleEndian : (size n : Nat) → Bytes
  | 0, _ => []
  | size + 1, n => UInt8.ofNat (n % 256) :: littleEndian size (n / 256)

/-- The number with these bytes, least significant first. -/
def fromLittleEndian : Bytes → Nat
  | [] => 0
  | b :: bs => b.toNat + 256 * fromLittleEndian bs

/-- Whether there are fewer than `n` bytes. No more of them are looked at than it takes. -/
def isShorter : Bytes → (n : Nat) → Bool
  | _, 0 => false
  | [], _ + 1 => true
  | _ :: bs, n + 1 => isShorter bs n

theorem isShorter_iff (bs : Bytes) (n : Nat) : isShorter bs n = true ↔ bs.length < n := by
  induction bs generalizing n with
  | nil => cases n <;> simp [isShorter]
  | cons b bs ih => cases n <;> simp [isShorter, ih]

/-- How many numbers fit in so many bytes. -/
def capacity : (size : Nat) → Nat
  | 0 => 1
  | size + 1 => 256 * capacity size

@[simp] theorem length_littleEndian (size n : Nat) : (littleEndian size n).length = size := by
  induction size generalizing n with
  | zero => rfl
  | succ size ih => simp [littleEndian, ih]

theorem fromLittleEndian_cons_mod (b : UInt8) (bs : Bytes) :
    fromLittleEndian (b :: bs) % 256 = b.toNat := by
  have hb : b.toNat < 256 := b.toNat_lt
  unfold fromLittleEndian
  omega

theorem fromLittleEndian_cons_div (b : UInt8) (bs : Bytes) :
    fromLittleEndian (b :: bs) / 256 = fromLittleEndian bs := by
  have hb : b.toNat < 256 := b.toNat_lt
  conv => lhs; unfold fromLittleEndian
  omega

theorem fromLittleEndian_lt : (bs : Bytes) → fromLittleEndian bs < capacity bs.length
  | [] => Nat.one_pos
  | b :: bs => by
    have tail := fromLittleEndian_lt bs
    have last := fromLittleEndian_cons_mod b bs
    have rest := fromLittleEndian_cons_div b bs
    have hb : b.toNat < 256 := b.toNat_lt
    show fromLittleEndian (b :: bs) < 256 * capacity bs.length
    omega

theorem fromLittleEndian_littleEndian {size n : Nat} (h : n < capacity size) :
    fromLittleEndian (littleEndian size n) = n := by
  induction size generalizing n with
  | zero =>
    obtain rfl : n = 0 := Nat.lt_one_iff.1 h
    rfl
  | succ size ih =>
    have rest : n / 256 < capacity size := Nat.div_lt_of_lt_mul h
    have low : (UInt8.ofNat (n % 256)).toNat = n % 256 :=
      UInt8.toNat_ofNat_of_lt (Nat.mod_lt n (by decide))
    simp only [littleEndian, fromLittleEndian, ih rest, low]
    exact Nat.mod_add_div n 256

theorem littleEndian_fromLittleEndian :
    (bs : Bytes) → littleEndian bs.length (fromLittleEndian bs) = bs
  | [] => rfl
  | b :: bs => by
    simp only [List.length_cons, littleEndian, fromLittleEndian_cons_mod,
      fromLittleEndian_cons_div, UInt8.ofNat_toNat, littleEndian_fromLittleEndian bs]

/-- The lower-case hexadecimal digit of a number below sixteen. -/
def hexDigit (n : Nat) : Char :=
  if n < 10 then Char.ofNat (48 + n) else Char.ofNat (87 + n)

/-- The `width` low hexadecimal digits of `n`, most significant first. -/
def hexDigits : (width n : Nat) → List Char
  | 0, _ => []
  | width + 1, n => hexDigit (n / 16 ^ width % 16) :: hexDigits width n

/-- `n` in `width` lower-case hexadecimal digits, padded with zeros. -/
def hexNumber (width n : Nat) : String := String.ofList (hexDigits width n)

/-- Two lower-case hexadecimal digits for each byte. -/
def hexText (bs : Bytes) : String :=
  String.ofList (bs.flatMap fun b => hexDigits 2 b.toNat)

end Replica
