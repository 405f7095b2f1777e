import ConfidentialToken.Identity.Pseudonym
import ConfidentialToken.Suite

/-!
# Signatures of identities

Only the plain kinds of identities sign: the key stands in the raw identity. A script signs through
the party that may spend, never itself.
-/

namespace ConfidentialToken

/-- Checks that an identity signed a message: identity, message, signature. -/
abbrev SignatureCheck := Identity → Bytes → Bytes → Outcome Unit

namespace Identity

/-- The key that signatures of an identity verify under. -/
def verifyingKey (P : Type) [Suite P] (identity : Identity) : Outcome (Block 32) := do
  let typed ← TypedIdentity.parse identity
  match ← typed.kind with
  | .x509 => return (← X509Identity.codec.read typed.identity.bytes).publicKey
  | .idemix => return (← (IdemixIdentity.codec (P := P)).read typed.identity.bytes).publicKey
  | .script => throw <| .malformed "script identities cannot sign"

/-- The error that tells why a signature is refused. -/
def signatureError : SignatureFault → Error
  | .invalidKey => .malformed
    "invalid verification key: signature error: Cannot decompress Edwards point"
  | .wrongLength => .verification "malformed signature: signature error"
  | .mismatch => .verification "invalid signature"

/-- Checks that an identity signed a message. -/
def verify (P : Type) [Suite P] : SignatureCheck := fun identity message signature => do
  let key ← identity.verifyingKey P
  (Suite.verifySignature P key message signature).mapError signatureError

end Identity

/-- Someone who signs: an identity, and signing in its name. -/
structure Signer where
  identity : Identity
  sign : Bytes → Bytes

/-- The signer with the key of a seed, under an identity. -/
def Signer.ofSeed (P : Type) [Suite P] (identity : Identity) (seed : Block 32) : Signer :=
  ⟨identity, Suite.sign P seed⟩

end ConfidentialToken
