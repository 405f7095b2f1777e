import ConfidentialToken.Identity.Owner
import ConfidentialToken.Log
import ConfidentialToken.Metadata
import ConfidentialToken.Parameters
import ConfidentialToken.Request

/-!
# Audit

The auditor sees a request together with all of its metadata. It accepts when every output opens as
disclosed and every owner is the one that its audit info describes; it then endorses the request by
signing it. What it finds (`Auditor.inspect`) is kept apart from what it reports (`Auditor.check`).
-/

namespace ConfidentialToken

/-- A token with what the auditor is told about it. Inputs come without an opening. -/
structure AuditableToken (P : Type) where
  token : Token P
  opening : Option Opening
  ownerInfo : Bytes

namespace AuditableToken

variable {P : Type} [PointGroup P]

/-- An output with the opening that its disclosure holds. -/
def ofOutput (index : Nat) (token : Token P) (disclosure ownerInfo : Bytes) :
    Outcome (AuditableToken P) := do
  let disclosure ← (Disclosure.ofBytes disclosure).inContext s!"invalid metadata of output [{index}]"
  return ⟨token, some disclosure.opening, ownerInfo⟩

/-- The outputs of an issue, each with its disclosure and the audit info of its receiver. -/
def ofIssue (index : Nat) (issue : Bytes) (metadata : IssueMetadata) :
    Outcome (List (AuditableToken P)) := do
  let action : IssueAction P ←
    (IssueAction.ofBytes issue).inContext s!"failed to deserialize issue action at index [{index}]"
  if action.outputs.length ≠ metadata.outputsMetadata.length then
    throw <| .malformed "number of output does not match number of provided metadata"
  (withPositions (action.outputs.zip metadata.outputsMetadata)).mapM fun (i, output, disclosure) =>
    if output.isRedeemed then throw <| .malformed "issue cannot redeem tokens"
    else
      match metadata.receiverAuditInfos[i]? with
      | some ownerInfo => ofOutput i output disclosure ownerInfo
      | none => throw <| .malformed "issue must have at least one receiver"

/-- The outputs of issues, issue by issue. -/
def ofIssues (issues : List Bytes) (metadata : List IssueMetadata) :
    Outcome (List (List (AuditableToken P))) :=
  if issues.length ≠ metadata.length then
    .error <| .malformed "number of issues does not match number of provided metadata"
  else
    (withPositions (issues.zip metadata)).mapM fun (k, issue, metadata) => ofIssue k issue metadata

/-- The inputs of a transfer, which must be the tokens that it spends, each with the audit info of
its sender. -/
def ofInputs (index : Nat) (action : TransferAction P) (metadata : TransferMetadata)
    (inputs : List (Token P)) : Outcome (List (AuditableToken P)) := do
  if metadata.senderAuditInfos.length ≠ inputs.length then
    throw <| .malformed <| "number of inputs does not match the number of senders " ++
      s!"[{metadata.senderAuditInfos.length}]!=[{inputs.length}]"
  if action.inputs.length ≠ inputs.length then
    throw <| .malformed <| "number of inputs does not match the number of spent tokens " ++
      s!"[{action.inputs.length}]!=[{inputs.length}]"
  match (inputs.zip action.inputs).findIdx? fun (token, input) => token ≠ input.token with
  | some i => throw <| .verification <|
      s!"input[{index}][{i}] does not match the token spent by the transfer"
  | none => return List.zipWith (fun token info => ⟨token, none, info⟩) inputs metadata.senderAuditInfos

/-- The outputs of a transfer, each with its disclosure and its audit info. -/
def ofOutputs (action : TransferAction P) (metadata : TransferMetadata) :
    Outcome (List (AuditableToken P)) := do
  if action.outputs.length ≠ metadata.outputsMetadata.length ∨
      action.outputs.length ≠ metadata.outputAuditInfos.length then
    throw <| .malformed <| "number of outputs does not match the number of output metadata " ++
      s!"[{action.outputs.length}]!=[{metadata.outputsMetadata.length}]"
  (withPositions (action.outputs.zip (metadata.outputsMetadata.zip metadata.outputAuditInfos))).mapM
    fun (i, output, disclosure, ownerInfo) => ofOutput i output disclosure ownerInfo

/-- The inputs and the outputs of a transfer. -/
def ofTransfer (index : Nat) (transfer : Bytes) (metadata : TransferMetadata)
    (inputs : List (Token P)) : Outcome (List (AuditableToken P) × List (AuditableToken P)) := do
  let action : TransferAction P ← (TransferAction.ofBytes transfer).inContext
    s!"failed to deserialize transfer action at index [{index}]"
  return (← ofInputs index action metadata inputs, ← ofOutputs action metadata)

/-- The inputs and the outputs of transfers, transfer by transfer. -/
def ofTransfers (transfers : List Bytes) (metadata : List TransferMetadata)
    (inputs : List (List (Token P))) :
    Outcome (List (List (AuditableToken P) × List (AuditableToken P))) :=
  if transfers.length ≠ metadata.length then
    .error <| .malformed "number of transfers does not match the number of provided metadata"
  else if inputs.length ≠ metadata.length then
    .error <| .malformed "number of inputs does not match the number of provided metadata"
  else
    (withPositions (transfers.zip (metadata.zip inputs))).mapM
      fun (k, transfer, metadata, inputs) => ofTransfer k transfer metadata inputs

end AuditableToken

/-- Inspects requests, and endorses them if it has a signer. -/
structure Auditor (P : Type) where
  parameters : PublicParameters P
  signer : Option Signer
  logger : Logger

namespace Auditor

variable {P : Type} [PointGroup P]

/-- An auditor under public parameters, which reports below a logger. -/
def create (parameters : PublicParameters P) (signer : Option Signer) (parent : Logger) :
    Auditor P :=
  ⟨parameters, signer, (parent.named "auditor").named parameters.identifier⟩

/-- The auditor in record notation. -/
def display (auditor : Auditor P) : String :=
  Text.record "Auditor"
    [("pp", Text.quote auditor.parameters.identifier),
      ("signer", Text.option (auditor.signer.map (·.identity.display)))]

/-! ## Owners -/

/-- Checks that a party of a script is the one that its audit info describes. -/
def inspectParty (role : String) (index : Nat) (party : Identity) (info : Bytes) :
    Outcome Unit := do
  let typed ← (TypedIdentity.parse party).inContext
    s!"failed to retrieve raw owner from {role} in script"
  let matcher ← (OwnerMatcher.ofAuditInfo party info).inContext
    s!"failed to get matcher for script {role}"
  (matcher.accept P typed.identity).inContext <|
    s!"script {role} of token at index [{index}] does not match the provided opening"

/-- Checks both parties of a script that owns a token. -/
def inspectScript (token : AuditableToken P) (index : Nat) : Outcome Unit := do
  let script ← (Script.ofIdentity token.token.owner).inContext
    "failed getting script sender and recipient"
  let info ← ScriptInfo.ofBytes token.ownerInfo
  inspectParty (P := P) "sender" index script.sender info.sender
  inspectParty (P := P) "recipient" index script.recipient info.recipient

/-- Checks that the owner of a token is the one that its audit info describes. -/
def inspectOwner (token : AuditableToken P) (index : Nat) : Outcome Unit := do
  if token.token.isRedeemed then
    throw <| .malformed s!"token at index [{index}] is a redeem token, cannot inspect ownership"
  if token.ownerInfo = [] then
    throw <| .malformed s!"failed to inspect owner at index [{index}]: owner info is nil"
  let owner := token.token.owner
  let typed ← (TypedIdentity.parse owner).inContext s!"owner at index [{index}] cannot be unwrapped"
  match ← typed.kind with
  | .script => inspectScript token index
  | .x509 | .idemix =>
    let matcher ← (OwnerMatcher.ofAuditInfo owner token.ownerInfo).inContext
      s!"failed to get owner matcher for output [{index}]"
    (matcher.accept P typed.identity).inContext
      s!"owner at index [{index}] does not match the provided opening"

/-! ## Tokens -/

/-- Checks that an output opens as disclosed and, unless redeemed, has the owner described. -/
def inspectOutput (auditor : Auditor P) (output : AuditableToken P) (index : Nat) :
    Outcome Unit := do
  match output.opening with
  | none => throw <| .malformed s!"invalid output at index [{index}]"
  | some opening =>
    if !opening.opens output.token.data auditor.parameters.generators then
      throw <| .verification s!"output at index [{index}] does not match the provided opening"
    if !output.token.isRedeemed then
      (inspectOwner output index).inContext s!"failed inspecting output at index [{index}]"

/-- Checks outputs one by one. -/
def inspectOutputs (auditor : Auditor P) (outputs : List (AuditableToken P)) : Outcome Unit :=
  (withPositions outputs).forM fun (i, output) =>
    (auditor.inspectOutput output i).inContext s!"failed inspecting output [{i}]"

/-- Checks the owners of inputs one by one. -/
def inspectInputs (inputs : List (AuditableToken P)) : Outcome Unit :=
  (withPositions inputs).forM fun (i, input) =>
    if input.token.isRedeemed then .ok ()
    else (inspectOwner input i).inContext s!"failed inspecting input at index [{i}]"

/-! ## Requests -/

/-- What the auditor finds about a request: issues first, then the outputs and at last the inputs of
all transfers. The tokens that each transfer spends are given as the ledger has them. -/
def inspect (auditor : Auditor P) (request : TokenRequest) (metadata : RequestMetadata)
    (inputs : List (List (Token P))) (txId : String) : Outcome Unit := do
  let issued ← (AuditableToken.ofIssues request.issues metadata.issues).inContext
    s!"failed getting audit info for issues for [{txId}]"
  (withPositions issued).forM fun (k, outputs) =>
    (auditor.inspectOutputs outputs).inContext s!"audit of {k} th issue in tx [{txId}] failed"
  let transferred ←
    (AuditableToken.ofTransfers request.transfers metadata.transfers inputs).inContext
      s!"failed getting audit info for transfers for [{txId}]"
  (withPositions transferred).forM fun (k, _, outputs) =>
    (auditor.inspectOutputs outputs).inContext s!"audit of {k} th transfer in tx [{txId}] failed"
  (withPositions transferred).forM fun (k, inputs, _) =>
    (inspectInputs inputs).inContext s!"audit of {k} th transfer in tx [{txId}] failed"

/-- Inspects a request and reports that it does so and when it has succeeded. -/
def check (auditor : Auditor P) (request : TokenRequest) (metadata : RequestMetadata)
    (inputs : List (List (Token P))) (txId : String) : Logged Unit := do
  auditor.logger.debug <| s!"checking [{request.issues.length}] issues and " ++
    s!"[{request.transfers.length}] transfers of [{txId}]"
  auditor.inspect request metadata inputs txId
  auditor.logger.debug s!"check of [{txId}] succeeded"

/-- Signs a request for a transaction. -/
def endorse (auditor : Auditor P) (request : Option TokenRequest) (txId : String) :
    Logged Bytes := do
  match request with
  | none => throw <| .malformed s!"audit of tx [{txId}] failed: token request is nil"
  | some request =>
    let message ← (request.messageToSign txId).inContext
      s!"failed marshalling token request [{txId}]"
    auditor.logger.debug s!"endorse [{Bytes.hex (Hash.sha256 message)}][{txId}]"
    match auditor.signer with
    | none => throw <| .setup s!"audit of tx [{txId}] failed: signer is nil"
    | some signer => return signer.sign message

end Auditor

end ConfidentialToken
