import ConfidentialToken.Network

/-!
# Forged submissions

What a dishonest maker of a request may change in what it gives to the auditor: the openings and audit
infos of one action's outputs, the audit infos of its senders, and the tokens that it is said to spend.
The request itself stays as it is signed.
-/

namespace ConfidentialToken

/-- A change to a submission. -/
inductive Forgery where
  /-- Another value in an opening. -/
  | value (value : UInt64)
  /-- Another type in an opening. -/
  | tokenType (tokenType : String)
  /-- Another blinding factor in an opening. -/
  | blinding (blinding : Scalar)
  /-- A disclosure without an issuer. -/
  | noIssuer
  /-- Other bytes in place of a disclosure. -/
  | disclosure (bytes : Bytes)
  /-- Another audit info of an output. -/
  | auditInfo (info : Bytes)
  /-- The audit infos of the outputs in reverse. -/
  | swapAuditInfos
  /-- The disclosures of the outputs in reverse. -/
  | swapDisclosures
  /-- No disclosure of the last output. -/
  | dropDisclosure
  /-- No audit info of the last output. -/
  | dropAuditInfo
  /-- Another audit info of a sender. -/
  | senderAuditInfo (info : Bytes)
  /-- No audit info of the last sender. -/
  | dropSender
  /-- No inputs of the last transfer. -/
  | dropInputs
  /-- One input less. -/
  | dropInput
  /-- Another owner of an input. -/
  | inputOwner (owner : Identity)
  /-- No metadata of issues. -/
  | noIssues
  /-- No metadata of transfers. -/
  | noTransfers

/-- The action and the output, or input, that a forgery is about. -/
structure ForgeryTarget where
  onIssue : Bool
  action : Nat
  place : Nat

namespace Forgery

/-- Changes a disclosure that can be read. -/
def redisclose (change : Disclosure → Disclosure) (bytes : Bytes) : Bytes :=
  match Disclosure.ofBytes bytes with
  | .ok told => (change told).toBytes
  | .error _ => bytes

/-- Changes what an opening says. -/
def reopen (change : Opening → Opening) : Bytes → Bytes :=
  redisclose fun told => { told with opening := change told.opening }

/-- The disclosures of the outputs of an action after a forgery. -/
def onDisclosures (place : Nat) (disclosures : List Bytes) : Forgery → List Bytes
  | value v => disclosures.modify place (reopen fun o => { o with value := v })
  | tokenType t => disclosures.modify place (reopen fun o => { o with tokenType := t })
  | blinding b => disclosures.modify place (reopen fun o => { o with blinding := b })
  | noIssuer => disclosures.modify place (redisclose fun d => { d with issuer := none })
  | disclosure bytes => disclosures.set place bytes
  | swapDisclosures => disclosures.reverse
  | dropDisclosure => disclosures.dropLast
  | _ => disclosures

/-- The audit infos of the outputs of an action after a forgery. -/
def onAuditInfos (place : Nat) (infos : List Bytes) : Forgery → List Bytes
  | auditInfo info => infos.set place info
  | swapAuditInfos => infos.reverse
  | dropAuditInfo => infos.dropLast
  | _ => infos

/-- The audit infos of the senders of a transfer after a forgery. -/
def onSenders (place : Nat) (infos : List Bytes) : Forgery → List Bytes
  | senderAuditInfo info => infos.set place info
  | dropSender => infos.dropLast
  | _ => infos

/-- The tokens that transfers spend after a forgery. -/
def onInputs {P : Type} (target : ForgeryTarget) (inputs : List (List (Token P))) :
    Forgery → List (List (Token P))
  | dropInputs => inputs.dropLast
  | dropInput => inputs.modify target.action List.dropLast
  | inputOwner owner => inputs.modify target.action fun tokens =>
    tokens.modify target.place fun token => { token with owner }
  | _ => inputs

/-- Metadata of an issue after a forgery. -/
def onIssue (forgery : Forgery) (place : Nat) (metadata : IssueMetadata) : IssueMetadata :=
  { metadata with
    outputsMetadata := forgery.onDisclosures place metadata.outputsMetadata
    receiverAuditInfos := forgery.onAuditInfos place metadata.receiverAuditInfos }

/-- Metadata of a transfer after a forgery. -/
def onTransfer (forgery : Forgery) (place : Nat) (metadata : TransferMetadata) :
    TransferMetadata :=
  { metadata with
    outputsMetadata := forgery.onDisclosures place metadata.outputsMetadata
    outputAuditInfos := forgery.onAuditInfos place metadata.outputAuditInfos
    senderAuditInfos := forgery.onSenders place metadata.senderAuditInfos }

/-- Metadata of a request after a forgery. -/
def onMetadata (target : ForgeryTarget) (metadata : RequestMetadata) : Forgery → RequestMetadata
  | noIssues => { metadata with issues := [] }
  | noTransfers => { metadata with transfers := [] }
  | forgery =>
    if target.onIssue then
      { metadata with
        issues := metadata.issues.modify target.action (forgery.onIssue target.place) }
    else
      { metadata with
        transfers := metadata.transfers.modify target.action (forgery.onTransfer target.place) }

/-- A submission after a forgery. -/
def onSubmission {P : Type} (forgery : Forgery) (target : ForgeryTarget)
    (submission : Submission P) : Submission P :=
  { submission with
    metadata := forgery.onMetadata target submission.metadata
    inputs := forgery.onInputs target submission.inputs }

end Forgery

end ConfidentialToken
