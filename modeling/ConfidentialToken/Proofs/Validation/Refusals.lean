import ConfidentialToken.Proofs.Task.Failure
import ConfidentialToken.Proofs.Validation.Rules

/-!
# What the validator refuses a request for

A caller must be able to tell a fraudulent request from a component that is set up wrongly. Checks of
range proofs can fail for either, by their parameters or by the proof, but whoever runs one reports a
failed verification. So whatever the bytes of a request read as, the validator refuses it for the request
itself. There is one lemma for each function that can fail.
-/

namespace ConfidentialToken

/-! ## Kinds of errors -/

namespace ErrorKind

/-- The error is about the input, not about a component that is set up wrongly. -/
def OfInput (kind : ErrorKind) : Prop := kind = .malformed ∨ kind = .verification

theorem OfInput.malformed : OfInput .malformed := Or.inl rfl

theorem OfInput.verification : OfInput .verification := Or.inr rfl

/-- What fails only as a verification fails for its input. -/
theorem OfInput.of_verification {kind : ErrorKind} (h : kind = .verification) : kind.OfInput := Or.inr h

end ErrorKind

open ErrorKind (OfInput)

/-! ## Reading and writing -/

section

variable {α : Type}

theorem Wire.Codec.read_failsOnly (codec : Wire.Codec α) (bytes : Bytes) :
    (codec.read bytes).FailsOnly OfInput :=
  .mapError (fun _ => .malformed) _

/-- Reading in a context is how all objects are read. -/
theorem Wire.Codec.readIn_failsOnly (codec : Wire.Codec α) (bytes : Bytes) (context : String) :
    ((codec.read bytes).inContext context).FailsOnly OfInput :=
  (codec.read_failsOnly bytes).inContext context

theorem Wire.Codec.write_failsOnly (codec : Wire.Codec α) (value : α) :
    (codec.write value).FailsOnly OfInput :=
  .ite (fun _ => .ok _) fun _ => .error .malformed

end

theorem TypedIdentity.parse_failsOnly (identity : Identity) : (parse identity).FailsOnly OfInput :=
  codec.readIn_failsOnly _ _

theorem TypedIdentity.kind_failsOnly (typed : TypedIdentity) : typed.kind.FailsOnly OfInput :=
  .ite (fun _ => .ok _) fun _ => .ite (fun _ => .ok _) fun _ => .ite (fun _ => .ok _) fun _ =>
    .error .malformed

theorem Script.ofIdentity_failsOnly (identity : Identity) :
    (ofIdentity identity).FailsOnly OfInput :=
  (TypedIdentity.parse_failsOnly identity).bind fun typed _ => typed.kind_failsOnly.bind fun _ _ =>
    .guard_bind .malformed (codec.readIn_failsOnly _ _)

theorem Script.check_failsOnly (script : Script) (now : UInt64) :
    (script.check now).FailsOnly OfInput :=
  .guard_bind .malformed <| .guard_bind .malformed <| .guard_bind .malformed <|
    .guard .verification (.ok _)

theorem Identity.signerAt_failsOnly (owner : Identity) (now : UInt64) :
    (owner.signerAt now).FailsOnly OfInput :=
  .ite (fun _ => (Script.ofIdentity_failsOnly owner).bind fun _ _ => .ok _) fun _ => .ok _

/-! ## Proofs -/

section

variable {P : Type}

theorem SameTypeProof.verify_failsOnly [PointGroup P] (proof : SameTypeProof P) (g : Generators P)
    (tokens : List (Commitment P)) : (proof.verify g tokens).FailsOnly (· = .verification) :=
  .guard_bind rfl (.guard rfl (.ok _))

theorem ZeroValueProof.verify_failsOnly [PointGroup P] (proof : ZeroValueProof) (g : Generators P)
    (commitment : Commitment P) (context : List Entry) :
    (proof.verify g commitment context).FailsOnly (· = .verification) :=
  .ite (fun _ => .ok _) fun _ => .error rfl

variable [Suite P]

/-- Whatever the bytes are, an issue proof holds or fails as a verification. -/
theorem IssueProof.verify_failsOnly (pp : PublicParameters P) (tokens : List (Commitment P))
    (proof : Bytes) : (verify pp tokens proof).FailsOnly (· = .verification) := by
  refine .guard_bind rfl (.bind (.inContext (.asVerification (by rfl) _) _) fun proof _ => ?_)
  refine .bind ((proof.sameType.verify_failsOnly _ _).inContext _) fun _ _ => ?_
  exact .inContext (.asVerification (by rfl) _) _

/-- So it is with transfer proofs. -/
theorem TransferProof.verify_failsOnly (pp : PublicParameters P) (inputs outputs : List (Commitment P))
    (proof : Bytes) : (verify pp inputs outputs proof).FailsOnly (· = .verification) := by
  refine .guard_bind rfl (.bind (.inContext (.asVerification (by rfl) _) _) fun proof _ => ?_)
  refine .bind ((proof.sameType.verify_failsOnly _ _).inContext _) fun _ _ => ?_
  refine .bind ((proof.balance.verify_failsOnly _ _ _).inContext _) fun _ _ => ?_
  exact .inContext (.asVerification (by rfl) _) _

end

/-! ## Actions -/

section

variable {P : Type}

theorem checkOutputs_failsOnly (outputs : List (Token P)) :
    (checkOutputs outputs).FailsOnly OfInput :=
  .guard_bind .malformed (.guard .malformed (.ok _))

theorem IssueAction.check_failsOnly (action : IssueAction P) : action.check.FailsOnly OfInput := by
  refine .guard_bind .malformed ((checkOutputs_failsOnly _).bind fun _ _ => ?_)
  split
  · exact .error .malformed
  · exact .ok _

theorem TransferAction.checkInputs_failsOnly (seen : List TokenId) (inputs : List (ActionInput P)) :
    (checkInputs seen inputs).FailsOnly OfInput := by
  induction inputs generalizing seen with
  | nil => exact .ok _
  | cons input rest ih =>
    exact .ite (fun _ => .error .malformed) fun _ => .ite (fun _ => .error .malformed) fun _ => ih _

theorem TransferAction.check_failsOnly (action : TransferAction P) :
    action.check.FailsOnly OfInput := by
  refine .guard_bind .malformed (.guard_bind .malformed ?_)
  refine (checkOutputs_failsOnly _).bind fun _ _ => (checkInputs_failsOnly _ _).bind fun _ _ => ?_
  exact .guard .malformed (.ok _)

theorem TokenRequest.readActions_failsOnly [PointGroup P] (request : TokenRequest) :
    (request.readActions P).FailsOnly OfInput :=
  .bind (.mapM fun _ _ => (IssueAction.codec.readIn_failsOnly _ _).inContext _) fun _ _ =>
    .bind (.mapM fun _ _ => (TransferAction.codec.readIn_failsOnly _ _).inContext _) fun _ _ => .ok _

end

/-! ## Rules -/

section

variable {P : Type} (setting : Setting P)

theorem SignatureQueue.take_failsOnly (verify : SignatureCheck) (message : Bytes) (signer : Identity) :
    (take verify message signer).FailsOnly OfInput := by
  refine Task.FailsOnly.bind .get fun queue => ?_
  split
  · exact .throw .verification
  · exact Task.FailsOnly.bind (.set _) fun _ =>
      .lift (.inContext (.asVerification .verification _) _)

theorem Setting.requireSignature_failsOnly (signer : Identity) :
    (setting.requireSignature signer).FailsOnly OfInput :=
  (SignatureQueue.take_failsOnly _ _ signer).onPart

namespace Rule

theorem checkClaim_failsOnly (script : Script) (id : TokenId) (output : Token P)
    (metadata : SortedMap String Bytes) :
    (checkClaim script id output metadata).FailsOnly OfInput := by
  refine .guard_bind .verification ?_
  split
  · exact .error .verification
  · exact .guard .verification (.ok _)

theorem lock_failsOnly (now : UInt64) (index : Nat) (output : Token P) :
    (lock now index output).FailsOnly OfInput :=
  .ite (fun _ => (Script.ofIdentity_failsOnly _).bind fun script _ =>
    (script.check_failsOnly now).inContext _) fun _ => .ok _

theorem unlock_failsOnly (action : TransferAction P) (input : ActionInput P) :
    (unlock setting action input).FailsOnly OfInput := by
  refine .ite (.bind (.lift (Script.ofIdentity_failsOnly _)) fun script => ?_) (.pure _)
  split
  · refine .ite ?claim ?reclaim
    case claim => exact .bind (.lift (checkClaim_failsOnly _ _ _ _)) fun _ => .onPart (.debug _ _)
    case reclaim => exact .bind (.lift (.require .verification)) fun _ => .onPart (.debug _ _)
  · exact .throw .verification

variable [Suite P]

theorem spend_failsOnly (input : ActionInput P) : (spend setting input).FailsOnly OfInput := by
  refine .bind .get fun progress => .guard_bind .verification (.bind (.set _) fun _ => ?_)
  split
  · exact .throw .verification
  · exact .guard .verification (.pure _)

theorem issue_failsOnly (action : IssueAction P) :
    (issue.check setting action).FailsOnly OfInput := by
  refine .bind (.lift action.check_failsOnly) fun _ => .bind (.lift (.require .verification)) fun _ => ?_
  refine .bind (.inContext (setting.requireSignature_failsOnly _) _) fun _ => .lift ?_
  exact (IssueProof.verify_failsOnly _ _ _).mono fun _ => .of_verification

theorem transferInputs_failsOnly (action : TransferAction P) :
    (transferInputs.check setting action).FailsOnly OfInput :=
  .bind (.lift action.check_failsOnly) fun _ => .forM fun input _ => spend_failsOnly setting input

omit [Suite P] in
theorem transferSignatures_failsOnly (action : TransferAction P) :
    (transferSignatures.check setting action).FailsOnly OfInput := by
  refine .bind (.forM fun input _ => ?_) fun _ => .forM fun _ _ => ?_
  · exact .bind (.lift (Identity.signerAt_failsOnly _ _)) fun signer =>
      .inContext (setting.requireSignature_failsOnly signer) _
  · exact .inContext (setting.requireSignature_failsOnly _) _

theorem transferProof_failsOnly (action : TransferAction P) :
    (transferProof.check setting action).FailsOnly OfInput :=
  .lift ((TransferProof.verify_failsOnly _ _ _ _).mono fun _ => .of_verification)

omit [Suite P] in
theorem transferScripts_failsOnly (action : TransferAction P) :
    (transferScripts.check setting action).FailsOnly OfInput :=
  .bind (.forM fun input _ => unlock_failsOnly setting action input) fun _ =>
    .forM fun _ _ => .lift (lock_failsOnly _ _ _)

/-- The rule for issues refuses an issue for itself. -/
theorem forIssues_failsOnly : ∀ rule ∈ (forIssues : List (Rule P (IssueAction P))),
    ∀ action, (rule.check setting action).FailsOnly OfInput :=
  List.forall_mem_singleton.mpr (issue_failsOnly setting)

/-- Each of the rules for transfers refuses a transfer for itself. -/
theorem forTransfers_failsOnly : ∀ rule ∈ (forTransfers : List (Rule P (TransferAction P))),
    ∀ action, (rule.check setting action).FailsOnly OfInput :=
  forall_mem_forTransfers.mpr ⟨transferInputs_failsOnly setting, transferSignatures_failsOnly setting,
    transferProof_failsOnly setting, transferScripts_failsOnly setting⟩

end Rule

/-! ## The validator -/

namespace Validator

theorem checkAuditors_failsOnly (v : Validator P) (request : TokenRequest) (message : Bytes) :
    (v.checkAuditors request message).FailsOnly (· = .verification) := by
  refine .forM fun auditor _ => ?_
  unfold checkAuditor
  split
  · exact .error rfl
  · refine .inContext (.asVerification ?_ _) _
    rfl

/-- Rules that refuse an action for itself refuse a list of actions for one of them. -/
theorem checkActions_failsOnly {α : Type} {rules : List (Rule P α)}
    (each : ∀ rule ∈ rules, ∀ action, (rule.check setting action).FailsOnly OfInput) (kind : String)
    (actions : List α) : (checkActions setting kind rules actions).FailsOnly OfInput :=
  .forM fun _ _ => .bind (.forM fun rule listed => .inContext (each rule listed _) _) fun _ =>
    .onPart (.debug _ _)

variable [Suite P]

theorem checkRequest_failsOnly (pp : PublicParameters P) (logger : Logger)
    (issues : List (IssueAction P)) (transfers : List (TransferAction P)) :
    ((create pp logger).checkRequest setting issues transfers).FailsOnly OfInput := by
  refine .bind (checkActions_failsOnly setting (Rule.forIssues_failsOnly setting) _ _) fun _ => ?_
  refine .bind (checkActions_failsOnly setting (Rule.forTransfers_failsOnly setting) _ _) fun _ => ?_
  exact .bind .get fun _ => .guard .malformed (.pure _)

/-- A request is refused for itself. -/
theorem validate_failsOnly (pp : PublicParameters P) (logger : Logger) (ledger : Ledger)
    (anchor : String) (request : TokenRequest) :
    ((create pp logger).validate ledger anchor request).FailsOnly OfInput := by
  refine .bind (.debug _ _) fun _ => .bind (.lift (Wire.Codec.write_failsOnly _ _)) fun message => ?_
  have auditors := (checkAuditors_failsOnly (create pp logger) request message).mono fun _ =>
    OfInput.of_verification
  refine .bind (.lift (auditors.inContext _)) fun _ => ?_
  refine .bind (.lift (request.readActions_failsOnly.inContext _)) fun (issues, transfers) => ?_
  refine .bind .get fun log => .bind (.set _) fun _ => .bind (.lift ?_) fun _ => .pure _
  exact checkRequest_failsOnly _ pp logger issues transfers _

/-- So are bytes that need not be a request. -/
theorem validateBytes_failsOnly (pp : PublicParameters P) (logger : Logger) (ledger : Ledger)
    (anchor : String) (bytes : Bytes) :
    ((create pp logger).validateBytes ledger anchor bytes).FailsOnly OfInput :=
  .bind (.lift ((TokenRequest.codec.readIn_failsOnly _ _).inContext _)) fun request =>
    validate_failsOnly pp logger ledger anchor request

end Validator

end

end ConfidentialToken
