import ConfidentialToken.Scalar

/-!
# Range proofs

The form of a range proof: it shows that the value a commitment hides lies in `[0, 2 ^ n)`. Points
stay as bytes here, since a verifier meets them that way and only bytes go into the transcript.
This module holds the proof as data, its byte form and the faults of proving and verifying; the two
procedures are in the modules below it.
-/

namespace ConfidentialToken

/-- The last part of a range proof: an argument that two committed vectors have a given inner
product. Each round halves the vectors and leaves two points; two scalars remain. -/
structure InnerProductArgument where
  rounds : List (Block 32 × Block 32)
  a : Scalar
  b : Scalar
  /-- No verifier takes vectors of `2 ^ 32` entries. -/
  rounds_lt : rounds.length < 32
deriving DecidableEq

/-- A proof that a committed value lies in range. -/
structure RangeProof where
  /-- Commits to the bits of the value. -/
  bits : Block 32
  /-- Commits to the masks of the bits. -/
  masks : Block 32
  /-- Commits to the linear coefficient of the polynomial that the challenge is put into. -/
  linear : Block 32
  /-- Commits to the quadratic coefficient. -/
  quadratic : Block 32
  /-- The polynomial at the challenge. -/
  evaluation : Scalar
  /-- Opens the commitment to the polynomial at the challenge. -/
  evaluationBlinding : Scalar
  /-- Opens the commitment to the vectors at the challenge. -/
  vectorBlinding : Scalar
  argument : InnerProductArgument
deriving DecidableEq

namespace RangeProof

/-- Why a range proof is not made or not accepted. -/
inductive Fault where
  | notVerified
  | unreadable
  | blindingCount
  | bitSize
  | aggregation
  | generatorCount
  | inputLength
  | zeroChallenge
deriving DecidableEq, Repr

/-- The sentence that tells a fault. -/
def Fault.message : Fault → String
  | notVerified => "Proof verification failed."
  | unreadable => "Proof data could not be parsed."
  | blindingCount => "Wrong number of blinding factors supplied."
  | bitSize => "Invalid bitsize, must have n = 8,16,32,64."
  | aggregation => "Invalid aggregation size, m must be a power of 2."
  | generatorCount => "Invalid generators size, too few generators for proof"
  | inputLength => "Invalid input size, incorrect input length for proof"
  | zeroChallenge =>
    "Internal error during proof creation: Dealer gave a malicious challenge value."

/-- The bit lengths that ranges come in. -/
def bitLengths : List Nat := [8, 16, 32, 64]

/-- Checks a bit length, and that there are generators for it. -/
def checkSize (bits capacity : Nat) : Except Fault Unit :=
  if bits ∉ bitLengths then .error .bitSize
  else if capacity < bits then .error .generatorCount
  else .ok ()

/-! ## Byte form -/

/-- The blocks of a proof in order. -/
def blocks (proof : RangeProof) : List (Block 32) :=
  [proof.bits, proof.masks, proof.linear, proof.quadratic, proof.evaluation.toBlock,
    proof.evaluationBlinding.toBlock, proof.vectorBlinding.toBlock] ++
  proof.argument.rounds.flatMap (fun (left, right) => [left, right]) ++
  [proof.argument.a.toBlock, proof.argument.b.toBlock]

/-- A proof as bytes: 32 for each block. -/
def toBytes (proof : RangeProof) : Bytes := proof.blocks.flatMap Block.bytes

/-- Cuts bytes into exactly `count` blocks. -/
def blocks? : (count : Nat) → Bytes → Option (List (Block 32))
  | 0, [] => some []
  | 0, _ :: _ => none
  | count + 1, bytes => do
    let first ← Block.ofBytes? 32 (bytes.take 32)
    let rest ← blocks? count (bytes.drop 32)
    return first :: rest

/-- Takes blocks as pairs, with two left at the end. -/
def rounds? : List (Block 32) → Option (List (Block 32 × Block 32) × Block 32 × Block 32)
  | [a, b] => some ([], a, b)
  | left :: right :: rest => do
    let (rounds, last) ← rounds? rest
    return ((left, right) :: rounds, last)
  | _ => none

/-- Reads the argument from its blocks. -/
def argument? (blocks : List (Block 32)) : Option InnerProductArgument := do
  let (rounds, a, b) ← rounds? blocks
  if h : rounds.length < 32 then
    let a ← Scalar.ofBlock? a
    let b ← Scalar.ofBlock? b
    return ⟨rounds, a, b, h⟩
  else none

/-- Reads a proof: seven blocks, pairs for the rounds, and two blocks; scalars are canonical. -/
def ofBytes? (bytes : Bytes) : Option RangeProof := do
  match ← blocks? (bytes.length / 32) bytes with
  | bits :: masks :: linear :: quadratic :: evaluation :: evaluationBlinding :: vectorBlinding ::
      rest =>
    let evaluation ← Scalar.ofBlock? evaluation
    let evaluationBlinding ← Scalar.ofBlock? evaluationBlinding
    let vectorBlinding ← Scalar.ofBlock? vectorBlinding
    let argument ← argument? rest
    return ⟨bits, masks, linear, quadratic, evaluation, evaluationBlinding, vectorBlinding, argument⟩
  | _ => none

end RangeProof

end ConfidentialToken
