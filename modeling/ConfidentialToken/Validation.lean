import ConfidentialToken.Request
import ConfidentialToken.Validation.Rule

/-!
# Validation of requests

A validator accepts a request on a ledger when all named auditors have signed it, its actions can be
read, every action obeys every rule, and no signature is left over. The rules run action by action,
issues first, and the first failure is the verdict.
-/

namespace ConfidentialToken

/-- The actions of a request that was accepted. -/
structure ValidatedActions (P : Type) where
  issues : List (IssueAction P)
  transfers : List (TransferAction P)

/-- Decides requests by a list of rules for each kind of action. -/
structure Validator (P : Type) where
  parameters : PublicParameters P
  verify : SignatureCheck
  readActions : TokenRequest → Outcome (List (IssueAction P) × List (TransferAction P))
  issueRules : List (Rule P (IssueAction P))
  transferRules : List (Rule P (TransferAction P))
  logger : Logger

namespace Validator

variable {P : Type}

/-- The validator with the rules that every one has, which reports below a logger. -/
def create [Suite P] (parameters : PublicParameters P) (parent : Logger) : Validator P where
  parameters
  verify := Identity.verify P
  readActions := TokenRequest.readActions P
  issueRules := Rule.forIssues
  transferRules := Rule.forTransfers
  logger := (parent.named "validator").named parameters.identifier

/-- The validator in record notation: its parameters and the names of its rules. -/
def display [PointGroup P] (v : Validator P) : String :=
  Text.record "Validator"
    [("pp", Text.quote v.parameters.identifier),
      ("issue_rules", Text.list (v.issueRules.map fun rule => Text.quote rule.name)),
      ("transfer_rules", Text.list (v.transferRules.map fun rule => Text.quote rule.name))]

/-- Checks that an auditor signed a message: its first signature in the request counts. -/
def checkAuditor (v : Validator P) (request : TokenRequest) (message : Bytes)
    (auditor : Identity) : Outcome Unit :=
  match request.auditorSignatures.find? (·.identity = auditor) with
  | none =>
    .error <| .verification s!"auditor {auditor.display} did not sign the request"
  | some found =>
    (v.verify auditor message found.signature).asVerification.inContext
      s!"invalid signature of auditor {auditor.display}"

/-- Checks that all auditors that the parameters name signed a message. -/
def checkAuditors (v : Validator P) (request : TokenRequest) (message : Bytes) : Outcome Unit :=
  v.parameters.auditors.forM (v.checkAuditor request message)

/-- Checks an action against rules in order. -/
def checkAction {α : Type} (setting : Setting P) (what : String) (rules : List (Rule P α))
    (action : α) : Task Progress Unit :=
  rules.forM fun rule =>
    (rule.check setting action).inContext s!"failed validating {what}: {rule.name}"

/-- Checks actions of one kind in order, and reports each that is valid. -/
def checkActions {α : Type} (setting : Setting P) (kind : String) (rules : List (Rule P α))
    (actions : List α) : Task Progress Unit :=
  (withPositions actions).forM fun (i, action) => do
    let what := s!"{kind} [{i}] of [{setting.anchor}]"
    checkAction setting what rules action
    setting.debug s!"{what} is valid"

/-- Checks all actions of a request, and that they use up its signatures. -/
def checkRequest (v : Validator P) (setting : Setting P) (issues : List (IssueAction P))
    (transfers : List (TransferAction P)) : Task Progress Unit := do
  checkActions setting "issue" v.issueRules issues
  checkActions setting "transfer" v.transferRules transfers
  let left := (← get).signatures.remaining
  if left ≠ 0 then
    throw <| .malformed s!"request [{setting.anchor}] carries {left} unexpected signatures"

/-- Decides a request under an anchor. -/
def validate (v : Validator P) (ledger : Ledger) (anchor : String) (request : TokenRequest) :
    Logged (ValidatedActions P) := do
  v.logger.debug <| s!"validating request [{anchor}] with {request.issues.length} issues and " ++
    s!"{request.transfers.length} transfers"
  let message ← request.messageToSign anchor
  (v.checkAuditors request message).inContext s!"failed to verify auditor signatures of [{anchor}]"
  let (issues, transfers) ← (v.readActions request).inContext
    s!"failed to deserialize actions of [{anchor}]"
  let setting : Setting P := ⟨v.parameters, ledger, anchor, message, v.verify, v.logger⟩
  let log ← get
  let (verdict, progress) := (v.checkRequest setting issues transfers).perform
    ⟨.ofList request.signatures, [], log⟩
  set progress.log
  verdict
  return ⟨issues, transfers⟩

/-- Decides the byte form of a request under an anchor. -/
def validateBytes (v : Validator P) (ledger : Ledger) (anchor : String) (bytes : Bytes) :
    Logged (ValidatedActions P) := do
  let request ← (TokenRequest.ofBytes bytes).inContext
    s!"failed to unmarshal token request [{anchor}]"
  v.validate ledger anchor request

end Validator

end ConfidentialToken
