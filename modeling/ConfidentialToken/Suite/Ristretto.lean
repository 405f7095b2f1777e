import ConfidentialToken.Curve.Ristretto
import ConfidentialToken.Suite

/-!
# The Ristretto suite

The suite that programs run: commitments in the Ristretto group, range proofs over it, and Ed25519
signatures.
-/

namespace ConfidentialToken.Curve.Ristretto

/-- Both chains of range proof generators, made once. -/
def generatorChains : List Ristretto × List Ristretto := RangeProof.chains Ristretto

/-- The bases of range proofs over a value base and a blinding base. -/
def rangeBases (value blinding : Ristretto) : RangeProof.Bases Ristretto :=
  ⟨generatorChains.1, generatorChains.2, value, blinding⟩

instance : Suite Ristretto where
  proveRange value blinding capacity t v b bits draws :=
    RangeProof.prove (rangeBases value blinding) capacity t v.toNat b bits draws
  verifyRange value blinding capacity t commitment bits proof :=
    proof.verify (rangeBases value blinding) capacity t commitment bits
  publicKey := Ed25519.publicKey
  sign := Ed25519.sign
  verifySignature := Ed25519.verify

end ConfidentialToken.Curve.Ristretto
