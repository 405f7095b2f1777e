import ConfidentialToken.Commitment
import ConfidentialToken.Draws
import ConfidentialToken.Transcript

/-!
# Proofs that a commitment is a blinding alone

The prover shows that it knows the factor by which a commitment is a multiple of the blinding base,
that is, that the committed type and value cancel. The caller's entries bind the proof to its use.
-/

namespace ConfidentialToken

/-- A proof that a commitment is a multiple of the blinding base. -/
structure ZeroValueProof where
  challenge : Scalar
  response : Scalar
deriving DecidableEq

namespace ZeroValueProof

/-- The byte form: challenge and response. -/
def codec : Wire.Codec ZeroValueProof :=
  (Wire.Codec.scalar.pair Wire.Codec.scalar).via (fun (c, r) => ⟨c, r⟩)
    (fun p => (p.challenge, p.response))

variable {P : Type} [PointGroup P]

/-- What the challenge is drawn from: the caller's entries, then the commitment and the nonce
point. -/
def statement (context : List Entry) (commitment : Commitment P) (nonce : P) : List Entry :=
  context ++ [Transcript.domain (Bytes.ofText "private_token.zero_value"),
    .point "D" commitment.point, .point "A" nonce]

/-- The challenge of a statement. -/
def challengeOf (context : List Entry) (commitment : Commitment P) (nonce : P) : Scalar :=
  ((Transcript.ofEntries (statement context commitment nonce)).challengeScalar "c").1

/-- The nonce point that the response and the challenge stand for. -/
def nonce (proof : ZeroValueProof) (g : Generators P) (commitment : Commitment P) : P :=
  PointGroup.combine [(proof.response, g.blindingBase), (-proof.challenge, commitment.point)]

/-- Checks a proof about a commitment. -/
def verify (proof : ZeroValueProof) (g : Generators P) (commitment : Commitment P)
    (context : List Entry) : Outcome Unit :=
  if challengeOf context commitment (proof.nonce g commitment) = proof.challenge then .ok ()
  else .error <| .verification "inputs and outputs do not balance"

/-- Random scalars that one proof draws. -/
def drawCount : Nat := 1

/-- Proves that `commitment` is `blinding` times the blinding base. -/
def prove (g : Generators P) (commitment : Commitment P) (blinding : Scalar) (context : List Entry)
    (draws : Draws) : Outcome ZeroValueProof :=
  if PointGroup.scale blinding g.blindingBase ≠ commitment.point then
    .error <| .malformed "commitment does not open to zero value"
  else
    let challenge := challengeOf context commitment (PointGroup.scale (draws 0) g.blindingBase)
    .ok ⟨challenge, draws 0 + challenge * blinding⟩

end ZeroValueProof

end ConfidentialToken
