import ConfidentialToken.Scalar

/-!
# The group of commitments

Everything above the curve needs of it a commutative group on which scalars act, in which every
point has one encoding of 32 bytes. `PointGroup` gives the operations alone; what they satisfy is
stated apart, so that a theorem names the laws it rests on.
-/

namespace ConfidentialToken

/-- The operations on points. -/
class PointGroup (P : Type) where
  /-- Equality of points is decidable. -/
  decEq : DecidableEq P
  /-- The neutral point. -/
  zero : P
  add : P → P → P
  neg : P → P
  /-- The sum of the multiples in a list. -/
  combine : List (Scalar × P) → P
  /-- The bytes of a point. -/
  encode : P → Block 32
  /-- The point with the given bytes, if there is one. -/
  decode : Block 32 → Option P
  /-- A point of unknown logarithm from 64 uniform bytes. -/
  ofUniform : Bytes → P

namespace PointGroup

variable {P : Type} [PointGroup P]

instance : DecidableEq P := PointGroup.decEq

instance : Inhabited P := ⟨zero⟩

/-- The multiple of a point. -/
def scale (k : Scalar) (p : P) : P := combine [(k, p)]

/-- The difference of two points. -/
def sub (p q : P) : P := add p (neg q)

/-- Hashes bytes to a point: the SHA-512 digest, mapped. -/
def hash (bytes : Bytes) : P := ofUniform (Hash.sha512 bytes)

end PointGroup

end ConfidentialToken
