import ConfidentialToken.Commitment
import ConfidentialToken.Draws
import ConfidentialToken.Transcript

/-!
# Proofs that a commitment has no value

The prover shows that it knows a type and a blinding factor that open a commitment over the type base
and the blinding base. Such a commitment bridges tokens and range proofs: taken away from every token
it leaves commitments to values, which are in range only if all tokens have the committed type. The
proof is bound to the tokens it comes with by the statement that its challenge is drawn from.
-/

namespace ConfidentialToken

/-- A proof that `typeCommitment` opens to a type without a value. -/
structure SameTypeProof (P : Type) where
  typeCommitment : Commitment P
  challenge : Scalar
  typeResponse : Scalar
  blindingResponse : Scalar

namespace SameTypeProof

variable {P : Type} [PointGroup P]

/-- The byte form: the fields in order. -/
def codec : Wire.Codec (SameTypeProof P) :=
  let scalar := Wire.Codec.scalar
  (Commitment.codec.pair (scalar.pair (scalar.pair scalar))).via
    (fun (c, e, t, b) => ⟨c, e, t, b⟩)
    (fun p => (p.typeCommitment, p.challenge, p.typeResponse, p.blindingResponse))

/-- What the challenge is drawn from: generators, tokens, type commitment and nonce point. -/
def statement (g : Generators P) (tokens : List (Commitment P)) (typeCommitment : Commitment P)
    (nonce : P) : List Entry :=
  Transcript.domain (Bytes.ofText "private_token.same_type") :: g.toList.map (.point "G") ++
    Entry.points "tokens" (tokens.map Commitment.point) ++
    [.point "CT" typeCommitment.point, .point "A" nonce]

/-- The challenge of a statement. -/
def challengeOf (g : Generators P) (tokens : List (Commitment P)) (typeCommitment : Commitment P)
    (nonce : P) : Scalar :=
  ((Transcript.ofEntries (statement g tokens typeCommitment nonce)).challengeScalar "c").1

/-- The nonce point that the responses and the challenge stand for. -/
def nonce (proof : SameTypeProof P) (g : Generators P) : P :=
  PointGroup.combine [(proof.typeResponse, g.typeBase), (proof.blindingResponse, g.blindingBase),
    (-proof.challenge, proof.typeCommitment.point)]

/-- Checks a proof about tokens. A neutral type commitment is refused. -/
def verify (proof : SameTypeProof P) (g : Generators P) (tokens : List (Commitment P)) :
    Outcome Unit := do
  if proof.typeCommitment.isIdentity then
    throw <| .verification "type commitment is the identity"
  if challengeOf g tokens proof.typeCommitment (proof.nonce g) ≠ proof.challenge then
    throw <| .verification "invalid same type proof"

/-- Random scalars that one proof draws. -/
def drawCount : Nat := 2

/-- Proves that the commitment to a type under a blinding factor has no value. -/
def prove (g : Generators P) (tokens : List (Commitment P)) (tokenType : String) (blinding : Scalar)
    (draws : Draws) : SameTypeProof P :=
  let typeCommitment := g.commitType tokenType blinding
  let nonce := PointGroup.combine [(draws 0, g.typeBase), (draws 1, g.blindingBase)]
  let challenge := challengeOf g tokens typeCommitment nonce
  ⟨typeCommitment, challenge, draws 0 + challenge * Scalar.hash (Bytes.ofText tokenType),
    draws 1 + challenge * blinding⟩

end SameTypeProof

end ConfidentialToken
