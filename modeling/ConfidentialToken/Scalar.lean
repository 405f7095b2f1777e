import ConfidentialToken.Hash.Sha2

/-!
# Scalars

Scalars are the integers modulo the order of the group that commitments live in. They are canonical
by type, so two scalars are equal exactly when their 32 bytes are, and reading 32 bytes fails when
the number is not below the order.
-/

namespace ConfidentialToken

/-- The order of the group, a prime a little above `2 ^ 252`. -/
def groupOrder : Nat :=
  7237005577332262213973186563042994240857116359379907606001950938285454250989

instance : @NeZero Nat (@Zero.ofOfNat0 Nat (instOfNatNat 0)) groupOrder :=
  ⟨by unfold groupOrder; omega⟩

/-- An integer modulo the group order. -/
abbrev Scalar := Fin groupOrder

namespace Scalar

/-- The residue of a number. -/
def ofNat (n : Nat) : Scalar := Fin.ofNat groupOrder n

/-- A scalar as 32 bytes, lowest byte first. -/
def toBlock (s : Scalar) : Block 32 := .ofNat 32 s.val

/-- The scalar that 32 bytes write, if they write a number below the order. -/
def ofBlock? (block : Block 32) : Option Scalar :=
  if h : block.toNat < groupOrder then some ⟨block.toNat, h⟩ else none

/-- The residue of the number that a byte string of any length writes, lowest byte first. -/
def ofWide (bytes : Bytes) : Scalar := ofNat (Bytes.toNat bytes)

/-- Hashes bytes to a scalar: the SHA-512 digest, reduced. -/
def hash (bytes : Bytes) : Scalar := ofWide (Hash.sha512 bytes)

/-- `base ^ exponent`, by squaring. -/
def power (base : Scalar) (exponent : Nat) : Scalar :=
  if exponent = 0 then 1
  else
    let half := power (base * base) (exponent / 2)
    if exponent % 2 = 1 then half * base else half
  termination_by exponent

/-- The multiplicative inverse; zero has the inverse zero. -/
def inverse (s : Scalar) : Scalar := s.power (groupOrder - 2)

/-- The first `count` powers of a scalar, from the zeroth. -/
def powers (s : Scalar) (count : Nat) : List Scalar :=
  (List.range count).map s.power

/-- The sum of scalars. -/
def sum (scalars : List Scalar) : Scalar := scalars.foldl (· + ·) 0

/-- The inner product of two vectors, as far as the shorter reaches. -/
def inner (u v : List Scalar) : Scalar := sum (List.zipWith (· * ·) u v)

/-- Writing a scalar and reading it back is the identity. -/
theorem ofBlock?_toBlock (s : Scalar) : ofBlock? s.toBlock = some s := by
  have hs : s.val < Nat.pow 256 32 := Nat.lt_of_lt_of_le s.isLt (by decide)
  have h : s.toBlock.toNat = s.val := Bytes.toNat_littleEndian hs
  simp [ofBlock?, h, s.isLt]

/-- The 32 bytes that read as a scalar are the bytes that the scalar writes. -/
theorem toBlock_of_ofBlock? {block : Block 32} {s : Scalar} (h : ofBlock? block = some s) :
    s.toBlock = block := by
  obtain ⟨bytes, hlength⟩ := block
  unfold ofBlock? at h
  split at h
  · obtain rfl := Option.some.inj h
    apply Subtype.ext
    show Bytes.littleEndian 32 (Bytes.toNat bytes) = bytes
    rw [← hlength]
    exact Bytes.littleEndian_toNat bytes
  · cases h

end Scalar

end ConfidentialToken
