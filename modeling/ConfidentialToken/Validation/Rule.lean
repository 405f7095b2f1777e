import ConfidentialToken.Ledger
import ConfidentialToken.Parameters
import ConfidentialToken.Validation.Signatures
import ConfidentialToken.ZeroKnowledge.Issue
import ConfidentialToken.ZeroKnowledge.Transfer

/-!
# Rules

A rule looks at one action of a request, in the setting of the request. Rules run in order, and they
share what has happened so far: the signatures taken and the ids spent. The rules here are those that
every validator has; more can be appended.
-/

namespace ConfidentialToken

/-- What all rules see of the request that they run for. -/
structure Setting (P : Type) where
  parameters : PublicParameters P
  ledger : Ledger
  anchor : String
  /-- What the signatures are over. -/
  message : Bytes
  verify : SignatureCheck
  logger : Logger

/-- What has happened so far in the validation of a request. -/
structure Progress where
  signatures : SignatureQueue
  /-- The ids that the transfers have spent. -/
  spent : List TokenId
  log : List LogRecord

/-- A named check of an action. -/
structure Rule (P α : Type) where
  name : String
  check : Setting P → α → Task Progress Unit

namespace Setting

variable {P : Type}

/-- Takes the next signature and checks that an identity made it. -/
def requireSignature (setting : Setting P) (signer : Identity) : Task Progress Unit :=
  (SignatureQueue.take setting.verify setting.message signer).onPart Progress.signatures
    fun signatures progress => { progress with signatures }

/-- Reports a message. -/
def debug (setting : Setting P) (message : String) : Task Progress Unit :=
  (setting.logger.debug message).onPart Progress.log fun log progress => { progress with log }

end Setting

/-- Who must sign for a token at time `now`: its owner, or the entitled party if a script owns it. -/
def Identity.signerAt (owner : Identity) (now : UInt64) : Outcome Identity := do
  if Script.isScript owner then
    let script ← Script.ofIdentity owner
    return script.spender now
  else
    return owner

namespace Rule

variable {P : Type} [Suite P]

/-! ## Issues -/

/-- Checks that an issuer is authorized. Anybody is where the parameters name no issuers. -/
def authorize (pp : PublicParameters P) (issuer : Identity) : Outcome Unit :=
  Outcome.require (pp.issuers.isEmpty || pp.isIssuer issuer) <|
    .verification s!"issuer {issuer.display} is not authorized"

/-- An issue is well formed, its issuer is authorized and has signed, and its proof holds. -/
def issue : Rule P (IssueAction P) where
  name := "IssueValidate"
  check setting action := do
    action.check
    authorize setting.parameters action.issuer
    (setting.requireSignature action.issuer).inContext "failed verifying issuer signature"
    IssueProof.verify setting.parameters action.commitments action.proof

/-! ## Transfers -/

/-- Spends an input: no transfer before it in the request has, and the ledger holds the token. -/
def spend (setting : Setting P) (input : ActionInput P) : Task Progress Unit := do
  let progress ← get
  if input.id ∈ progress.spent then
    throw <| .verification s!"input {input.id.text} is spent twice in [{setting.anchor}]"
  set { progress with spent := progress.spent ++ [input.id] }
  match setting.ledger.state? input.id with
  | none => throw <| .verification s!"input {input.id.text} does not exist"
  | some stored =>
    if stored ≠ input.token.toBytes then
      throw <| .verification s!"input {input.id.text} does not match the ledger state"

/-- A transfer is well formed and spends tokens that are there to be spent. -/
def transferInputs : Rule P (TransferAction P) where
  name := "TransferActionValidate"
  check setting action := do
    action.check
    action.inputs.forM (spend setting)

/-- The owners of the inputs have signed, and after them the extra signers. -/
def transferSignatures : Rule P (TransferAction P) where
  name := "TransferSignatureValidate"
  check setting action := do
    action.inputs.forM fun input => do
      let signer ← input.token.owner.signerAt setting.ledger.time
      (setting.requireSignature signer).inContext
        s!"input {input.id.text} is not signed by its owner"
    (withPositions action.extraSigners).forM fun (i, signer) =>
      (setting.requireSignature signer).inContext s!"extra signer [{i}] did not sign"

/-- The proof of a transfer holds. -/
def transferProof : Rule P (TransferAction P) where
  name := "TransferBalanceValidate"
  check setting action :=
    TransferProof.verify setting.parameters action.inputCommitments action.commitments action.proof

/-- Checks the claim of a script before its deadline: the recipient gets the one output and discloses
a pre-image. -/
def checkClaim (script : Script) (id : TokenId) (output : Token P)
    (metadata : SortedMap String Bytes) : Outcome Unit := do
  if output.owner ≠ script.recipient then
    throw <| .verification
      s!"output of claim of input {id.text} is not owned by the script recipient"
  match metadata.get? (HashLock.claimKey script.lock.hash) with
  | none => throw <| .verification "claim pre-image is missing"
  | some preImage =>
    if !script.lock.isPreImage preImage then
      throw <| .verification "claim pre-image does not match the script hash"

/-- Checks the reclaim of a script from its deadline on: the sender gets the one output. -/
def checkReclaim (script : Script) (id : TokenId) (output : Token P) : Outcome Unit :=
  Outcome.require (output.owner = script.sender) <| .verification
    s!"output of reclaim of input {id.text} is not owned by the script sender"

/-- Checks an input that a script may own. -/
def unlock (setting : Setting P) (action : TransferAction P) (input : ActionInput P) :
    Task Progress Unit := do
  if Script.isScript input.token.owner then
    let script ← Script.ofIdentity input.token.owner
    match action.outputs with
    | [output] =>
      if setting.ledger.time < script.deadline then
        checkClaim script input.id output action.metadata
        setting.debug s!"claim of input {input.id.text} before deadline {script.deadline}"
      else
        checkReclaim script input.id output
        setting.debug s!"reclaim of input {input.id.text} after deadline {script.deadline}"
    | _ => throw <| .verification "an htlc script only transfers the ownership of a token"

/-- Checks that an output may be locked if a script owns it. -/
def lock (now : UInt64) (index : Nat) (output : Token P) : Outcome Unit := do
  if Script.isScript output.owner then
    let script ← Script.ofIdentity output.owner
    (script.check now).inContext s!"invalid script at output [{index}]"

/-- Scripts give their tokens to the entitled party alone, and new scripts are sound. -/
def transferScripts : Rule P (TransferAction P) where
  name := "TransferHtlcValidate"
  check setting action := do
    action.inputs.forM (unlock setting action)
    (withPositions action.outputs).forM fun (i, output) => lock setting.ledger.time i output

/-- The rules for issues that every validator has. -/
def forIssues : List (Rule P (IssueAction P)) := [issue]

/-- The rules for transfers that every validator has. -/
def forTransfers : List (Rule P (TransferAction P)) :=
  [transferInputs, transferSignatures, transferProof, transferScripts]

end Rule

end ConfidentialToken
