import ConfidentialToken.Parameters
import ConfidentialToken.Token
import ConfidentialToken.ZeroKnowledge.Ranges
import ConfidentialToken.ZeroKnowledge.SameType

/-!
# Proofs of issued tokens

An issue proof shows that all issued tokens have one hidden type and that every value is in range. The
prover commits to the type, shows that the commitment has no value, and proves the range of every
token less that commitment.
-/

namespace ConfidentialToken

/-- The proof of an issue. -/
structure IssueProof (P : Type) where
  sameType : SameTypeProof P
  ranges : RangeProofs

/-- Checks that there are openings, one for each token, all of one type that has a name. Gives the
type. -/
def commonType {P : Type} (openings : List Opening) (tokens : List (Commitment P)) :
    Outcome String := do
  match openings with
  | [] => throw <| .malformed "no token witnesses"
  | first :: _ =>
    if openings.length ≠ tokens.length then
      throw <| .malformed <| "number of witnesses does not match number of tokens " ++
        s!"[{openings.length}]!=[{tokens.length}]"
    if first.tokenType = "" then throw <| .malformed "token type is empty"
    match openings.findIdx? (·.tokenType ≠ first.tokenType) with
    | some i => throw <| .malformed s!"witness at index [{i}] has a different token type"
    | none => return first.tokenType

/-- Takes a type commitment away from tokens, and its blinding factor from their openings. -/
def detype {P : Type} [PointGroup P] (openings : List Opening) (tokens : List (Commitment P))
    (typeCommitment : Commitment P) (typeBlinding : Scalar) : List (RangeProofs.Claim P) :=
  List.zipWith (fun o c => ⟨c - typeCommitment, o.value, o.blinding - typeBlinding⟩) openings tokens

namespace IssueProof

variable {P : Type}

/-- The byte form: type proof, then range proofs. -/
def codec [PointGroup P] : Wire.Codec (IssueProof P) :=
  (SameTypeProof.codec.pair RangeProofs.codec).via (fun (s, r) => ⟨s, r⟩)
    (fun p => (p.sameType, p.ranges))

variable [Suite P]

/-- Random scalars drawn before the range proofs: the blinding factor of the type commitment and
the nonces of its proof. -/
def drawsBeforeRanges : Nat := 1 + SameTypeProof.drawCount

/-- Proves an issue of tokens from their openings; gives the byte form of the proof. -/
def prove (pp : PublicParameters P) (openings : List Opening) (tokens : List (Commitment P))
    (draws : Draws) : Outcome Bytes := do
  let tokenType ← commonType openings tokens
  let typeBlinding := draws 0
  let sameType := SameTypeProof.prove pp.generators tokens tokenType typeBlinding (draws.skip 1)
  let ranges ← Outcome.inContext "cannot prove range correctness of issued tokens" <|
    RangeProofs.prove pp.generators pp.bitLength pp.bitLength
      (detype openings tokens sameType.typeCommitment typeBlinding) (draws.skip drawsBeforeRanges)
  codec.write ⟨sameType, ranges⟩

/-- Checks the byte form of an issue proof. Every failure, also of bytes that are no proof, is a
failed verification. -/
def verify (pp : PublicParameters P) (tokens : List (Commitment P)) (proof : Bytes) :
    Outcome Unit := do
  if tokens.isEmpty then throw <| .verification "no tokens to verify"
  let proof ← (codec.read proof).asVerification.inContext "cannot decode issue proof"
  (proof.sameType.verify pp.generators tokens).inContext "invalid issue proof"
  let values := tokens.map (· - proof.sameType.typeCommitment)
  (proof.ranges.verify values pp.generators pp.bitLength
    pp.bitLength).asVerification.inContext "invalid issue proof"

end IssueProof

end ConfidentialToken
