/-!
# Byte strings

A byte string is a list of bytes, so that what is hashed, signed or sent can be taken apart by
induction. This module holds the readings that the rest of the library needs: numbers in
little-endian and big-endian order, lower-case hexadecimal, and text as UTF-8.
-/

namespace ConfidentialToken

/-- A byte string. -/
abbrev Bytes := List UInt8

namespace Bytes

/-! ## Numbers -/

/-- The lowest `width` bytes of a number, lowest byte first. -/
def littleEndian : (width : Nat) → Nat → Bytes
  | 0, _ => []
  | width + 1, n => UInt8.ofNat n :: littleEndian width (n / 256)

/-- The lowest `width` bytes of a number, highest byte first. -/
def bigEndian (width n : Nat) : Bytes :=
  (littleEndian width n).reverse

/-- The number written by a byte string, lowest byte first. -/
def toNat : Bytes → Nat
  | [] => 0
  | b :: rest => b.toNat + 256 * toNat rest

/-- The number written by a byte string, highest byte first. -/
def toNatBigEndian (bytes : Bytes) : Nat :=
  bytes.foldl (fun n b => n * 256 + b.toNat) 0

@[simp] theorem length_littleEndian (width n : Nat) : (littleEndian width n).length = width := by
  induction width generalizing n with
  | zero => rfl
  | succ width ih => simp [littleEndian, ih]

/-- Writing a number that fits and reading it back is the identity. -/
theorem toNat_littleEndian {width n : Nat} (h : n < Nat.pow 256 width) :
    toNat (littleEndian width n) = n := by
  induction width generalizing n with
  | zero =>
    obtain rfl : n = 0 := Nat.lt_one_iff.mp h
    rfl
  | succ width ih =>
    have hq : n / 256 < Nat.pow 256 width := by
      have h : n < Nat.pow 256 width * 256 := h
      exact Nat.div_lt_of_lt_mul (by omega)
    simp only [littleEndian, toNat, ih hq, UInt8.toNat_ofNat']
    omega

/-- A byte string of `width` bytes writes a number below `256 ^ width`. -/
theorem toNat_lt (bytes : Bytes) : toNat bytes < Nat.pow 256 bytes.length := by
  induction bytes with
  | nil => exact Nat.one_pos
  | cons b rest ih =>
    have hb := b.toNat_lt
    show b.toNat + 256 * toNat rest < Nat.pow 256 rest.length * 256
    omega

/-- Reading a byte string and writing the number at the same width is the identity. -/
theorem littleEndian_toNat (bytes : Bytes) : littleEndian bytes.length (toNat bytes) = bytes := by
  induction bytes with
  | nil => rfl
  | cons b rest ih =>
    have hb := b.toNat_lt
    have hq : (b.toNat + 256 * toNat rest) / 256 = toNat rest := by omega
    have hr : UInt8.ofNat (b.toNat + 256 * toNat rest) = b := by
      apply UInt8.toNat.inj
      rw [UInt8.toNat_ofNat']
      omega
    simp [littleEndian, toNat, hq, hr, ih]

/-! ## Hexadecimal -/

/-- The lower-case digit of a number below 16. -/
def hexDigit (n : Nat) : Char :=
  if n < 10 then Char.ofNat (48 + n) else Char.ofNat (87 + n)

/-- Lower-case hexadecimal, two digits a byte. -/
def hex (bytes : Bytes) : String :=
  String.ofList (bytes.flatMap fun b => [hexDigit (b.toNat / 16), hexDigit (b.toNat % 16)])

/-- The value of a hexadecimal digit of either case. -/
def hexValue? (c : Char) : Option Nat :=
  if '0' ≤ c ∧ c ≤ '9' then some (c.toNat - 48)
  else if 'a' ≤ c ∧ c ≤ 'f' then some (c.toNat - 87)
  else if 'A' ≤ c ∧ c ≤ 'F' then some (c.toNat - 55)
  else none

/-- Reads pairs of digits, keeping the bytes read so far in reverse. -/
def unhexOnto (read : Bytes) : List Char → Option Bytes
  | [] => some read.reverse
  | [_] => none
  | high :: low :: rest =>
    match hexValue? high, hexValue? low with
    | some h, some l => unhexOnto (UInt8.ofNat (16 * h + l) :: read) rest
    | _, _ => none

/-- Reads hexadecimal digits; an odd digit or a foreign character makes them unreadable. -/
def ofHex? (digits : List Char) : Option Bytes :=
  unhexOnto [] digits

/-! ## Text -/

/-- The UTF-8 bytes of a text. -/
def ofText (text : String) : Bytes :=
  text.toByteArray.data.toList

/-- The text with the given UTF-8 bytes, if they are valid. -/
def toText? (bytes : Bytes) : Option String :=
  String.fromUTF8? ⟨bytes.toArray⟩

end Bytes

/-- A byte string of a fixed length. -/
def Block (n : Nat) : Type := { bytes : Bytes // bytes.length = n }

namespace Block

instance {n : Nat} : DecidableEq (Block n) :=
  inferInstanceAs (DecidableEq { bytes : Bytes // bytes.length = n })

/-- The bytes of a block. -/
def bytes {n : Nat} (block : Block n) : Bytes := block.val

/-- The block of zero bytes. -/
def zero (n : Nat) : Block n := ⟨List.replicate n 0, List.length_replicate⟩

instance {n : Nat} : Inhabited (Block n) := ⟨zero n⟩

/-- A byte string as a block, if it has the length. -/
def ofBytes? (n : Nat) (bytes : Bytes) : Option (Block n) :=
  if h : bytes.length = n then some ⟨bytes, h⟩ else none

/-- Only byte strings of the length are blocks. -/
theorem length_of_ofBytes? {n : Nat} {bytes : Bytes} {block : Block n}
    (h : ofBytes? n bytes = some block) : bytes.length = n := by
  unfold ofBytes? at h
  split at h
  · assumption
  · cases h

/-- The lowest `n` bytes of a number, lowest byte first. -/
def ofNat (n value : Nat) : Block n :=
  ⟨Bytes.littleEndian n value, Bytes.length_littleEndian n value⟩

/-- The number a block writes, lowest byte first. -/
def toNat {n : Nat} (block : Block n) : Nat := Bytes.toNat block.val

end Block

end ConfidentialToken
