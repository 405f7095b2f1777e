import ConfidentialToken.Bytes

/-!
# Faults in UTF-8

Names the first place where a byte string stops being UTF-8, and whether it was cut short there or
holds bytes that no character has.
-/

namespace ConfidentialToken.Text.Utf8

/-- Where and how a byte string fails to be UTF-8. -/
inductive Fault where
  /-- The `length` bytes from `index` begin no character. -/
  | invalid (length index : Nat)
  /-- The bytes end within the character that begins at `index`. -/
  | incomplete (index : Nat)
deriving DecidableEq, Repr

/-- The sentence that tells a fault. -/
def Fault.message : Fault → String
  | .invalid length index =>
    s!"invalid utf-8 sequence of {length} bytes from index {index}"
  | .incomplete index => s!"incomplete utf-8 byte sequence from index {index}"

/-- What follows the first byte of a longer character: the least and the greatest second byte, and
the number of bytes after it. -/
def lead? (b : UInt8) : Option (UInt8 × UInt8 × Nat) :=
  if 0xC2 ≤ b ∧ b ≤ 0xDF then some (0x80, 0xBF, 0)
  else if b = 0xE0 then some (0xA0, 0xBF, 1)
  else if b = 0xED then some (0x80, 0x9F, 1)
  else if 0xE1 ≤ b ∧ b ≤ 0xEF then some (0x80, 0xBF, 1)
  else if b = 0xF0 then some (0x90, 0xBF, 2)
  else if 0xF1 ≤ b ∧ b ≤ 0xF3 then some (0x80, 0xBF, 2)
  else if b = 0xF4 then some (0x80, 0x8F, 2)
  else none

/-- Skips the last bytes of a character. Fails with the number of bytes that were right, or with
nothing when the input ends first. -/
def skipTails : (count right : Nat) → Bytes → Except (Option Nat) Bytes
  | 0, _, rest => .ok rest
  | _ + 1, _, [] => .error none
  | count + 1, right, b :: rest =>
    if 0x80 ≤ b ∧ b ≤ 0xBF then skipTails count (right + 1) rest else .error (some right)

/-- Skips a character of more than one byte after its first byte. -/
def skipAfter (first : UInt8) (rest : Bytes) : Except (Option Nat) Bytes :=
  match lead? first, rest with
  | none, _ => .error (some 1)
  | some _, [] => .error none
  | some (least, greatest, tails), second :: rest =>
    if least ≤ second ∧ second ≤ greatest then skipTails tails 2 rest else .error (some 1)

/-- The first fault from `index` on, among at most `fuel` characters. -/
def faultFrom : (fuel index : Nat) → Bytes → Option Fault
  | 0, _, _ => none
  | _ + 1, _, [] => none
  | fuel + 1, index, first :: rest =>
    if first < 0x80 then faultFrom fuel (index + 1) rest
    else
      match skipAfter first rest with
      | .ok after => faultFrom fuel (index + 1 + (rest.length - after.length)) after
      | .error (some length) => some (.invalid length index)
      | .error none => some (.incomplete index)

/-- The first fault of a byte string; `none` when it is UTF-8. -/
def fault? (bytes : Bytes) : Option Fault := faultFrom bytes.length 0 bytes

end ConfidentialToken.Text.Utf8
