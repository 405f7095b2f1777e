import ConfidentialToken.Action
import ConfidentialToken.Identity.Signing

/-!
# Token requests

A request is a list of actions as bytes together with the signatures that authorize them. What is
signed is the actions and an anchor, the name of the transaction; signatures are no part of it.
Signatures stand in order: those of the issuers, then for each transfer those of the owners of its
inputs and of its extra signers.
-/

namespace ConfidentialToken

/-- The signature of an auditor. -/
structure AuditorSignature where
  identity : Identity
  signature : Bytes
deriving DecidableEq

/-- The byte form: identity and signature. -/
def AuditorSignature.codec : Wire.Codec AuditorSignature :=
  (Identity.codec.pair Wire.Codec.bytes).via (fun (i, s) => ⟨i, s⟩)
    (fun a => (a.identity, a.signature))

/-- Actions and the signatures that authorize them. -/
structure TokenRequest where
  issues : List Bytes
  transfers : List Bytes
  signatures : List Bytes
  auditorSignatures : List AuditorSignature
deriving DecidableEq

namespace TokenRequest

/-- The request without actions and signatures. -/
def empty : TokenRequest := ⟨[], [], [], []⟩

/-- The byte form: the fields in order. -/
def codec : Wire.Codec TokenRequest :=
  let byteStrings := Wire.Codec.bytes.list
  (byteStrings.pair (byteStrings.pair (byteStrings.pair AuditorSignature.codec.list))).via
    (fun (i, t, s, a) => ⟨i, t, s, a⟩)
    (fun r => (r.issues, r.transfers, r.signatures, r.auditorSignatures))

/-- Writes a request. -/
def serialize (request : TokenRequest) : Outcome Bytes := codec.write request

/-- Reads a request. -/
def ofBytes (bytes : Bytes) : Outcome TokenRequest :=
  (codec.read bytes).inContext "cannot decode token request"

/-- What is signed: issues, transfers and the anchor. -/
def signedContent : Wire.Codec (List Bytes × List Bytes × String) :=
  Wire.Codec.bytes.list.pair (Wire.Codec.bytes.list.pair Wire.Codec.text)

/-- The bytes that issuers, owners and auditors sign. Nobody signs what is over the size limit. -/
def messageToSign (request : TokenRequest) (anchor : String) : Outcome Bytes :=
  signedContent.write (request.issues, request.transfers, anchor)

section

variable {P : Type} [PointGroup P]

/-- Adds an issue. -/
def addIssue (request : TokenRequest) (action : IssueAction P) : Outcome TokenRequest := do
  return { request with issues := request.issues ++ [← action.serialize] }

/-- Adds a transfer. -/
def addTransfer (request : TokenRequest) (action : TransferAction P) : Outcome TokenRequest := do
  return { request with transfers := request.transfers ++ [← action.serialize] }

end

/-- Adds a signature over the request. -/
def sign (request : TokenRequest) (signer : Signer) (anchor : String) : Outcome TokenRequest := do
  let message ← request.messageToSign anchor
  return { request with signatures := request.signatures ++ [signer.sign message] }

/-- Adds the signature of an auditor. -/
def addAuditorSignature (request : TokenRequest) (identity : Identity) (signature : Bytes) :
    TokenRequest :=
  { request with auditorSignatures := request.auditorSignatures ++ [⟨identity, signature⟩] }

/-- Reads the issues of a request. -/
def readIssues (P : Type) [PointGroup P] (request : TokenRequest) :
    Outcome (List (IssueAction P)) :=
  (withPositions request.issues).mapM fun (i, bytes) =>
    (IssueAction.ofBytes bytes).inContext s!"issue [{i}]"

/-- Reads the transfers of a request. -/
def readTransfers (P : Type) [PointGroup P] (request : TokenRequest) :
    Outcome (List (TransferAction P)) :=
  (withPositions request.transfers).mapM fun (i, bytes) =>
    (TransferAction.ofBytes bytes).inContext s!"transfer [{i}]"

/-- Reads the actions of a request, issues first. -/
def readActions (P : Type) [PointGroup P] (request : TokenRequest) :
    Outcome (List (IssueAction P) × List (TransferAction P)) := do
  return (← request.readIssues P, ← request.readTransfers P)

end TokenRequest

end ConfidentialToken
