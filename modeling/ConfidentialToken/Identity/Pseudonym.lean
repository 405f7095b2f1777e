import ConfidentialToken.Commitment
import ConfidentialToken.Identity

/-!
# Pseudonyms

A pseudonym commits to the enrollment id and the revocation handle of its holder, so that nobody sees
them until the holder tells the blinding factor.
-/

namespace ConfidentialToken

/-- A raw identity that hides its enrollment id. -/
structure IdemixIdentity (P : Type) where
  pseudonym : Commitment P
  publicKey : Block 32

variable {P : Type} [PointGroup P]

/-- The byte form: pseudonym and key. -/
def IdemixIdentity.codec : Wire.Codec (IdemixIdentity P) :=
  (Commitment.codec.pair (Wire.Codec.block 32)).via (fun (n, k) => ⟨n, k⟩)
    (fun i => (i.pseudonym, i.publicKey))

/-- The pseudonym of an enrollment id and a revocation handle, under the default generators. -/
def pseudonym (enrollmentId : String) (revocationHandle : Bytes) (blinding : Scalar) :
    Commitment P :=
  let g : Generators P := .default
  ⟨PointGroup.combine [(Scalar.hash (Bytes.ofText enrollmentId), g.typeBase),
    (Scalar.hash revocationHandle, g.valueBase), (blinding, g.blindingBase)]⟩

end ConfidentialToken
