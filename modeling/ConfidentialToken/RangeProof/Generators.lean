import ConfidentialToken.Hash.Keccak
import ConfidentialToken.PointGroup

/-!
# Generators of range proofs

A range proof commits to two vectors, each entry under a generator of its own. The generators are
two chains of points whose mutual logarithms nobody knows: the bytes that a hash function draws from
the chain's name, mapped to points.
-/

namespace ConfidentialToken.RangeProof

/-- The two chains of generators, and the two bases of the commitment that is proved about. -/
structure Bases (P : Type) where
  left : List P
  right : List P
  /-- Carries the value. -/
  value : P
  /-- Carries the blinding factor. -/
  blinding : P

/-- Cuts bytes into `count` pieces of 64 and maps each to a point. -/
def pointsOf {P : Type} [PointGroup P] : (count : Nat) → Bytes → List P
  | 0, _ => []
  | count + 1, bytes =>
    let (piece, rest) := bytes.splitAt 64
    PointGroup.ofUniform piece :: pointsOf count rest

/-- The first `count` points of the chain named by a letter. -/
def chain (P : Type) [PointGroup P] (letter : String) (count : Nat) : List P :=
  pointsOf count <|
    Hash.Keccak.shake256 (64 * count)
      (Bytes.ofText "GeneratorsChain" ++ Bytes.ofText letter ++ Bytes.littleEndian 4 0)

/-- The longest vectors: one entry for each bit of a value. -/
def maximalLength : Nat := 64

/-- Both chains, as long as any proof needs them. -/
def chains (P : Type) [PointGroup P] : List P × List P :=
  (chain P "G" maximalLength, chain P "H" maximalLength)

end ConfidentialToken.RangeProof
