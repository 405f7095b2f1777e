import ConfidentialToken.Draws
import ConfidentialToken.Identity.Signing

/-!
# Credentials

A credential is what a party holds: the seed of its key, the identity made from the key, and the audit
info that describes the identity.
-/

namespace ConfidentialToken

/-- A key with its identity and audit info. -/
structure Credential where
  seed : Block 32
  identity : Identity
  auditInfo : Bytes

namespace Credential

/-- The credential of a seed that shows its enrollment id. -/
def x509 (P : Type) [Suite P] (enrollmentId : String) (seed : Block 32)
    (revocationHandle : Bytes) : Credential :=
  let raw : X509Identity := ⟨enrollmentId, Suite.publicKey P seed⟩
  ⟨seed, TypedIdentity.wrap .x509 ⟨X509Identity.codec.encode raw⟩,
    AuditInfo.codec.encode ⟨enrollmentId, revocationHandle, none⟩⟩

/-- The credential of a seed under a pseudonym. -/
def idemix (P : Type) [Suite P] (enrollmentId : String) (seed : Block 32)
    (revocationHandle : Bytes) (blinding : Scalar) : Credential :=
  let raw : IdemixIdentity P :=
    ⟨pseudonym enrollmentId revocationHandle blinding, Suite.publicKey P seed⟩
  ⟨seed, TypedIdentity.wrap .idemix ⟨IdemixIdentity.codec.encode raw⟩,
    AuditInfo.codec.encode ⟨enrollmentId, revocationHandle, some blinding⟩⟩

/-- Bytes in a revocation handle that is drawn. -/
def handleSize : Nat := 16

/-- A fresh credential of one of the plain kinds, from two or three draws. -/
def draw (P : Type) [Suite P] (hidden : Bool) (enrollmentId : String) (draws : Draws) :
    Credential :=
  let seed := (draws 0).toBlock
  let handle := (draws 1).toBlock.bytes.take handleSize
  if hidden then idemix P enrollmentId seed handle (draws 2) else x509 P enrollmentId seed handle

/-- The signer that uses the credential. -/
def signer (P : Type) [Suite P] (credential : Credential) : Signer :=
  .ofSeed P credential.identity credential.seed

/-- The credential in record notation: its identity alone. -/
def display (credential : Credential) : String :=
  Text.record "Ed25519Signer" [("identity", credential.identity.display)]

end Credential

end ConfidentialToken
