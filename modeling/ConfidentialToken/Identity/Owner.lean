import ConfidentialToken.Identity.Pseudonym

/-!
# Owners and their audit info

Audit info describes an owner. What it says is turned into a matcher, which then accepts or refuses
the raw identity of an owner.
-/

namespace ConfidentialToken

/-- What a raw identity is held against. -/
inductive OwnerMatcher where
  /-- Accepts the identities that show an enrollment id. -/
  | enrollmentId (id : String)
  /-- Accepts the pseudonyms that open to these values. -/
  | pseudonym (id : String) (revocationHandle : Bytes) (blinding : Scalar)
deriving DecidableEq

namespace OwnerMatcher

/-- A matcher in record notation: its kind alone. -/
def display : OwnerMatcher → String
  | enrollmentId _ => "OwnerMatcher::EnrollmentId"
  | pseudonym _ _ _ => "OwnerMatcher::Nym"

/-- The matcher that audit info gives for an owner of a plain kind. -/
def ofAuditInfo (owner : Identity) (auditInfo : Bytes) : Outcome OwnerMatcher := do
  let typed ← TypedIdentity.parse owner
  match ← typed.kind with
  | .x509 =>
    let info ← AuditInfo.ofBytes auditInfo
    return enrollmentId info.enrollmentId
  | .idemix =>
    let info ← AuditInfo.ofBytes auditInfo
    match info.pseudonymBlinding with
    | some blinding => return pseudonym info.enrollmentId info.revocationHandle blinding
    | none => throw <| .malformed "idemix audit info has no pseudonym blinding"
  | .script => throw <| .malformed "script owners are matched through their sender and recipient"

/-- The enrollment id that a matcher stands for. -/
def id : OwnerMatcher → String
  | enrollmentId id => id
  | pseudonym id _ _ => id

/-- Checks a raw identity against a matcher. -/
def accept (P : Type) [PointGroup P] (matcher : OwnerMatcher) (raw : Identity) : Outcome Unit := do
  match matcher with
  | enrollmentId id =>
    let found ← Outcome.inContext "identity is not an X.509 identity" <|
      (X509Identity.codec.read raw.bytes).mapError Error.asVerification
    if found.enrollmentId ≠ id then throw <| .verification "enrollment ID does not match"
  | pseudonym id revocationHandle blinding =>
    let found ← Outcome.inContext "identity is not an Idemix identity" <|
      ((IdemixIdentity.codec (P := P)).read raw.bytes).mapError Error.asVerification
    if found.pseudonym ≠ ConfidentialToken.pseudonym id revocationHandle blinding then
      throw <| .verification "pseudonym does not match"

end OwnerMatcher

end ConfidentialToken
