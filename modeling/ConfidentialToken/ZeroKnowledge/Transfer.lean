import ConfidentialToken.ZeroKnowledge.Issue
import ConfidentialToken.ZeroKnowledge.ZeroValue

/-!
# Proofs of transfers

A transfer proof shows that inputs and outputs have one hidden type, that their values balance, and
that every value is in range. Balance is a proof that the sum of the inputs less the sum of the
outputs, the type commitment taken away from each, is a multiple of the blinding base.
-/

namespace ConfidentialToken

/-- The proof of a transfer. -/
structure TransferProof (P : Type) where
  sameType : SameTypeProof P
  balance : ZeroValueProof
  ranges : RangeProofs

namespace TransferProof

variable {P : Type}

section

variable [PointGroup P]

/-- The byte form: type proof, balance proof, range proofs. -/
def codec : Wire.Codec (TransferProof P) :=
  (SameTypeProof.codec.pair (ZeroValueProof.codec.pair RangeProofs.codec)).via
    (fun (s, b, r) => ⟨s, b, r⟩) (fun p => (p.sameType, p.balance, p.ranges))

/-- What the balance proof is bound to: inputs, outputs and type commitment. -/
def balanceContext (inputs outputs : List (Commitment P)) (typeCommitment : Commitment P) :
    List Entry :=
  Transcript.domain (Bytes.ofText "private_token.transfer.balance") ::
    Entry.points "inputs" (inputs.map Commitment.point) ++
    Entry.points "outputs" (outputs.map Commitment.point) ++ [.point "CT" typeCommitment.point]

/-- The sum of the inputs less the sum of the outputs, the type commitment taken away from each. -/
def balanceCommitment (inputs outputs : List (Commitment P)) (typeCommitment : Commitment P) :
    Commitment P :=
  Commitment.sum (inputs.map (· - typeCommitment)) -
    Commitment.sum (outputs.map (· - typeCommitment))

end

variable [Suite P]

/-- Random scalars drawn before the range proofs. -/
def drawsBeforeRanges : Nat := 1 + SameTypeProof.drawCount + ZeroValueProof.drawCount

/-- Proves a transfer from the openings of its inputs and outputs; gives the byte form of the
proof. -/
def prove (pp : PublicParameters P) (inputOpenings : List Opening) (inputs : List (Commitment P))
    (outputOpenings : List Opening) (outputs : List (Commitment P)) (draws : Draws) :
    Outcome Bytes := do
  let tokenType ← (commonType inputOpenings inputs).inContext "invalid transfer inputs"
  let outputType ← (commonType outputOpenings outputs).inContext "invalid transfer outputs"
  if tokenType ≠ outputType then
    throw <| .malformed "inputs and outputs have different token types"
  if Opening.total inputOpenings ≠ Opening.total outputOpenings then
    throw <| .malformed "inputs and outputs do not balance"
  let g := pp.generators
  let typeBlinding := draws 0
  let sameType := SameTypeProof.prove g (inputs ++ outputs) tokenType typeBlinding (draws.skip 1)
  let typeCommitment := sameType.typeCommitment
  let inputClaims := detype inputOpenings inputs typeCommitment typeBlinding
  let outputClaims := detype outputOpenings outputs typeCommitment typeBlinding
  let balanceBlinding := Scalar.sum (inputClaims.map (·.blinding)) -
    Scalar.sum (outputClaims.map (·.blinding))
  let balance ← Outcome.inContext "cannot prove transfer balance" <|
    ZeroValueProof.prove g (balanceCommitment inputs outputs typeCommitment) balanceBlinding
      (balanceContext inputs outputs typeCommitment) (draws.skip (1 + SameTypeProof.drawCount))
  let ranges ← Outcome.inContext "cannot prove range correctness of transfer" <|
    RangeProofs.prove g pp.bitLength pp.bitLength (inputClaims ++ outputClaims)
      (draws.skip drawsBeforeRanges)
  codec.write ⟨sameType, balance, ranges⟩

/-- Checks the byte form of a transfer proof. Every failure, also of bytes that are no proof, is a
failed verification. -/
def verify (pp : PublicParameters P) (inputs outputs : List (Commitment P)) (proof : Bytes) :
    Outcome Unit := do
  if inputs.isEmpty ∨ outputs.isEmpty then
    throw <| .verification "transfer must have inputs and outputs"
  let proof ← (codec.read proof).asVerification.inContext "cannot decode transfer proof"
  let g := pp.generators
  let tokens := inputs ++ outputs
  let typeCommitment := proof.sameType.typeCommitment
  (proof.sameType.verify g tokens).inContext "invalid transfer proof"
  (proof.balance.verify g (balanceCommitment inputs outputs typeCommitment)
    (balanceContext inputs outputs typeCommitment)).inContext "invalid transfer proof"
  (proof.ranges.verify (tokens.map (· - typeCommitment)) g pp.bitLength
    pp.bitLength).asVerification.inContext "invalid transfer proof"

end TransferProof

end ConfidentialToken
