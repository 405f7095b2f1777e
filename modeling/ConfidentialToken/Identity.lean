import ConfidentialToken.Error
import ConfidentialToken.Text.Quoted

/-!
# Identities

An identity is a byte string; the empty one stands for "nobody". On the wire owners, issuers and
auditors are typed: a tag that names one of three kinds, and the raw identity of that kind. A raw
identity of the first two kinds holds the key that its signatures verify under.
-/

namespace ConfidentialToken

/-- An identity as bytes. -/
structure Identity where
  bytes : Bytes
deriving DecidableEq

namespace Identity

/-- Nobody: the owner of a redeemed token. -/
def none : Identity := ⟨[]⟩

instance : Inhabited Identity := ⟨none⟩

/-- Whether the identity is nobody. -/
def isNone (identity : Identity) : Bool := identity.bytes.isEmpty

/-- The SHA-256 digest in hexadecimal, which is safe to report. -/
def uniqueId (identity : Identity) : String := Bytes.hex (Hash.sha256 identity.bytes)

/-- The identity in record notation: the first sixteen digits of its digest. -/
def display (identity : Identity) : String :=
  Text.wrapped "Identity" (Text.quote (String.ofList (identity.uniqueId.toList.take 16)))

/-- The byte form: a byte string. -/
def codec : Wire.Codec Identity := Wire.Codec.bytes.via (⟨·⟩) bytes

end Identity

/-- The kinds of typed identities. -/
inductive IdentityKind where
  /-- Shows its enrollment id. -/
  | x509
  /-- Hides its enrollment id in a commitment. -/
  | idemix
  /-- A time lock between two parties. -/
  | script
deriving DecidableEq, Repr

namespace IdentityKind

/-- The tag of a kind on the wire. -/
def tag : IdentityKind → String
  | x509 => "x509"
  | idemix => "idemix"
  | script => "htlc"

/-- The kind with a tag. -/
def ofTag (tag : String) : Outcome IdentityKind :=
  if tag = "x509" then .ok x509
  else if tag = "idemix" then .ok idemix
  else if tag = "htlc" then .ok script
  else .error <| .malformed s!"identity type [{tag}] not recognized"

end IdentityKind

/-- A raw identity under a tag. -/
structure TypedIdentity where
  tag : String
  identity : Identity
deriving DecidableEq

namespace TypedIdentity

/-- The byte form: the tag, then the raw identity. -/
def codec : Wire.Codec TypedIdentity :=
  (Wire.Codec.text.pair Identity.codec).via (fun (t, i) => ⟨t, i⟩) (fun t => (t.tag, t.identity))

/-- The typed identity as an identity. -/
def toIdentity (typed : TypedIdentity) : Identity := ⟨codec.encode typed⟩

/-- Wraps a raw identity of a kind. -/
def wrap (kind : IdentityKind) (raw : Identity) : Identity := toIdentity ⟨kind.tag, raw⟩

/-- Unwraps an identity. -/
def parse (identity : Identity) : Outcome TypedIdentity :=
  (codec.read identity.bytes).inContext "identity cannot be unwrapped"

/-- The kind that the tag names. -/
def kind (typed : TypedIdentity) : Outcome IdentityKind := IdentityKind.ofTag typed.tag

end TypedIdentity

/-- A raw identity that shows its enrollment id. -/
structure X509Identity where
  enrollmentId : String
  publicKey : Block 32
deriving DecidableEq

/-- The byte form: enrollment id and key. -/
def X509Identity.codec : Wire.Codec X509Identity :=
  (Wire.Codec.text.pair (Wire.Codec.block 32)).via (fun (e, k) => ⟨e, k⟩)
    (fun i => (i.enrollmentId, i.publicKey))

/-- What a party tells the auditor about itself: its enrollment id, its revocation handle, and for
a pseudonym the blinding factor. -/
structure AuditInfo where
  enrollmentId : String
  revocationHandle : Bytes
  pseudonymBlinding : Option Scalar
deriving DecidableEq

namespace AuditInfo

/-- The byte form: the fields in order. -/
def codec : Wire.Codec AuditInfo :=
  (Wire.Codec.text.pair (Wire.Codec.bytes.pair Wire.Codec.scalar.option)).via
    (fun (e, h, b) => ⟨e, h, b⟩)
    (fun i => (i.enrollmentId, i.revocationHandle, i.pseudonymBlinding))

/-- Reads audit info. -/
def ofBytes (bytes : Bytes) : Outcome AuditInfo :=
  (codec.read bytes).inContext "cannot decode audit info"

/-- Audit info in record notation: nothing of it is shown. -/
def display (_ : AuditInfo) : String := "AuditInfo"

end AuditInfo

end ConfidentialToken
