import ConfidentialToken.Audit
import ConfidentialToken.Proofs.Audit.Coverage
import ConfidentialToken.Proofs.Validation.Refusals
import ConfidentialToken.Proofs.Wire.Types

/-!
# What the auditor refuses a request for

The auditor reads more than the validator: disclosures, audit infos and the owners of tokens. It too
refuses a request for the request or for what it was told about it, never for its own set-up; only
endorsing asks for a signer. With the validator and the verifiers of proofs this is one theorem
(`refused_for_input`).
-/

namespace ConfidentialToken

open ErrorKind (OfInput)

variable {P : Type} [PointGroup P]

/-! ## Owners -/

namespace OwnerMatcher

theorem ofAuditInfo_failsOnly (owner : Identity) (auditInfo : Bytes) :
    (ofAuditInfo owner auditInfo).FailsOnly OfInput := by
  refine (TypedIdentity.parse_failsOnly owner).bind fun typed _ =>
    typed.kind_failsOnly.bind fun kind _ => ?_
  cases kind with
  | x509 => exact (AuditInfo.codec.readIn_failsOnly _ _).bind fun _ _ => .ok _
  | idemix =>
    refine (AuditInfo.codec.readIn_failsOnly _ _).bind fun info _ => ?_
    split
    · exact .ok _
    · exact .error .malformed
  | script => exact .error .malformed

theorem accept_failsOnly (matcher : OwnerMatcher) (raw : Identity) :
    (matcher.accept P raw).FailsOnly OfInput := by
  cases matcher with
  | enrollmentId id =>
    exact .bind (.inContext (.asVerification .verification _) _) fun _ _ =>
      .guard .verification (.ok _)
  | pseudonym id revocationHandle blinding =>
    exact .bind (.inContext (.asVerification .verification _) _) fun _ _ =>
      .guard .verification (.ok _)

end OwnerMatcher

/-! ## What is paired -/

namespace AuditableToken

omit [PointGroup P] in
theorem ofOutput_failsOnly (index : Nat) (token : Token P) (disclosure ownerInfo : Bytes) :
    (ofOutput index token disclosure ownerInfo).FailsOnly OfInput :=
  .bind (.inContext (Disclosure.codec.readIn_failsOnly _ _) _) fun _ _ => .ok _

theorem ofIssues_failsOnly (issues : List Bytes) (metadata : List IssueMetadata) :
    (ofIssues (P := P) issues metadata).FailsOnly OfInput := by
  refine .ite (fun _ => .error .malformed) fun _ => .mapM fun (k, issue, metadata) _ => ?_
  refine .bind (.inContext (IssueAction.codec.readIn_failsOnly _ _) _) fun action _ => ?_
  refine .guard_bind .malformed (.mapM fun (i, output, disclosure) _ => .guard .malformed ?_)
  split
  · exact ofOutput_failsOnly _ _ _ _
  · exact .error .malformed

theorem ofInputs_failsOnly (index : Nat) (action : TransferAction P) (metadata : TransferMetadata)
    (inputs : List (Token P)) : (ofInputs index action metadata inputs).FailsOnly OfInput := by
  refine .guard_bind .malformed (.guard_bind .malformed ?_)
  split
  · exact .error .verification
  · exact .ok _

omit [PointGroup P] in
theorem ofOutputs_failsOnly (action : TransferAction P) (metadata : TransferMetadata) :
    (ofOutputs action metadata).FailsOnly OfInput :=
  .guard_bind .malformed (.mapM fun _ _ => ofOutput_failsOnly _ _ _ _)

theorem ofTransfers_failsOnly (transfers : List Bytes) (metadata : List TransferMetadata)
    (inputs : List (List (Token P))) :
    (ofTransfers transfers metadata inputs).FailsOnly OfInput := by
  refine .ite (fun _ => .error .malformed) fun _ => .ite (fun _ => .error .malformed) fun _ => ?_
  refine .mapM fun (k, transfer, metadata, inputs) _ => ?_
  refine .bind (.inContext (TransferAction.codec.readIn_failsOnly _ _) _) fun action _ => ?_
  exact (ofInputs_failsOnly _ _ _ _).bind fun _ _ =>
    (ofOutputs_failsOnly _ _).bind fun _ _ => .ok _

end AuditableToken

/-! ## What is inspected -/

namespace Auditor

theorem inspectParty_failsOnly (role : String) (index : Nat) (party : Identity) (info : Bytes) :
    (inspectParty (P := P) role index party info).FailsOnly OfInput :=
  .bind (.inContext (TypedIdentity.parse_failsOnly _) _) fun _ _ =>
    .bind (.inContext (OwnerMatcher.ofAuditInfo_failsOnly _ _) _) fun matcher _ =>
      .inContext (matcher.accept_failsOnly _) _

theorem inspectScript_failsOnly (token : AuditableToken P) (index : Nat) :
    (inspectScript token index).FailsOnly OfInput :=
  .bind (.inContext (Script.ofIdentity_failsOnly _) _) fun _ _ =>
    .bind (ScriptInfo.codec.readIn_failsOnly _ _) fun _ _ =>
      (inspectParty_failsOnly _ _ _ _).bind fun _ _ => inspectParty_failsOnly _ _ _ _

theorem inspectOwner_failsOnly (token : AuditableToken P) (index : Nat) :
    (inspectOwner token index).FailsOnly OfInput := by
  refine .guard_bind .malformed (.guard_bind .malformed ?_)
  refine .bind (.inContext (TypedIdentity.parse_failsOnly _) _) fun typed _ =>
    typed.kind_failsOnly.bind fun kind _ => ?_
  have plain := (OwnerMatcher.ofAuditInfo_failsOnly token.token.owner token.ownerInfo).inContext
    s!"failed to get owner matcher for output [{index}]"
  cases kind with
  | script => exact inspectScript_failsOnly token index
  | x509 => exact plain.bind fun matcher _ => .inContext (matcher.accept_failsOnly _) _
  | idemix => exact plain.bind fun matcher _ => .inContext (matcher.accept_failsOnly _) _

variable (auditor : Auditor P)

theorem inspectOutput_failsOnly (output : AuditableToken P) (index : Nat) :
    (auditor.inspectOutput output index).FailsOnly OfInput := by
  unfold inspectOutput
  split
  · exact .error .malformed
  · refine .guard_bind .verification (.ite (fun _ => ?_) fun _ => .ok _)
    exact .inContext (inspectOwner_failsOnly output index) _

theorem inspectOutputs_failsOnly (outputs : List (AuditableToken P)) :
    (auditor.inspectOutputs outputs).FailsOnly OfInput :=
  .forM fun _ _ => .inContext (auditor.inspectOutput_failsOnly _ _) _

theorem inspectInputs_failsOnly (inputs : List (AuditableToken P)) :
    (inspectInputs inputs).FailsOnly OfInput :=
  .forM fun _ _ => .ite (fun _ => .ok _) fun _ => .inContext (inspectOwner_failsOnly _ _) _

theorem inspect_failsOnly (request : TokenRequest) (metadata : RequestMetadata)
    (inputs : List (List (Token P))) (txId : String) :
    (auditor.inspect request metadata inputs txId).FailsOnly OfInput := by
  refine .bind (.inContext (AuditableToken.ofIssues_failsOnly _ _) _) fun issued _ => ?_
  refine .bind (.forM fun _ _ => .inContext (auditor.inspectOutputs_failsOnly _) _) fun _ _ => ?_
  refine .bind (.inContext (AuditableToken.ofTransfers_failsOnly _ _ _) _) fun transferred _ => ?_
  refine .bind (.forM fun _ _ => .inContext (auditor.inspectOutputs_failsOnly _) _) fun _ _ => ?_
  exact .forM fun _ _ => .inContext (inspectInputs_failsOnly _) _

/-- A request is refused for itself or for what the auditor was told about it. -/
theorem check_failsOnly (request : TokenRequest) (metadata : RequestMetadata)
    (inputs : List (List (Token P))) (txId : String) :
    (auditor.check request metadata inputs txId).FailsOnly OfInput :=
  .bind (.debug _ _) fun _ => .bind (.lift (auditor.inspect_failsOnly _ _ _ _)) fun _ => .debug _ _

end Auditor

/-! ## All who check a request -/

/-- Fraud is never reported as a component that is set up wrongly. The validator and the auditor refuse
whatever they are given as malformed or as a failed verification, and a proof, whatever its bytes, holds
or is a failed verification. -/
theorem refused_for_input {P : Type} [Suite P] (pp : PublicParameters P) :
    (∀ logger ledger anchor request log e,
      (((Validator.create pp logger).validate ledger anchor request).perform log).1 = .error e →
        e.kind = .malformed ∨ e.kind = .verification) ∧
    (∀ logger ledger anchor bytes log e,
      (((Validator.create pp logger).validateBytes ledger anchor bytes).perform log).1 = .error e →
        e.kind = .malformed ∨ e.kind = .verification) ∧
    (∀ signer logger request metadata inputs txId log e,
      (((Auditor.create pp signer logger).check request metadata inputs txId).perform log).1 =
        .error e → e.kind = .malformed ∨ e.kind = .verification) ∧
    (∀ tokens proof, IssueProof.verify pp tokens proof = .ok () ∨
      ∃ e, IssueProof.verify pp tokens proof = .error e ∧ e.kind = .verification) ∧
    ∀ inputs outputs proof, TransferProof.verify pp inputs outputs proof = .ok () ∨
      ∃ e, TransferProof.verify pp inputs outputs proof = .error e ∧ e.kind = .verification := by
  have verdict {result : Outcome Unit} (h : result.FailsOnly (· = .verification)) :
      result = .ok () ∨ ∃ e, result = .error e ∧ e.kind = .verification := by
    cases result with
    | ok => exact .inl rfl
    | error e => exact .inr ⟨e, rfl, h e rfl⟩
  refine ⟨?validate, ?validateBytes, ?check, ?issue, ?transfer⟩
  case validate =>
    intro logger ledger anchor request log
    exact Validator.validate_failsOnly pp logger ledger anchor request log
  case validateBytes =>
    intro logger ledger anchor bytes log
    exact Validator.validateBytes_failsOnly pp logger ledger anchor bytes log
  case check =>
    intro signer logger request metadata inputs txId log
    exact (Auditor.create pp signer logger).check_failsOnly request metadata inputs txId log
  case issue => exact fun tokens proof => verdict (IssueProof.verify_failsOnly pp tokens proof)
  case transfer =>
    exact fun inputs outputs proof => verdict (TransferProof.verify_failsOnly pp inputs outputs proof)

namespace Plain

/-- The sender of the swap gives its token to the recipient and keeps one of the same value, with the proof
that there is only the first. -/
def overspend : TransferAction Plain :=
  { passOn cashId cash recipient.identity with outputs := [⟨recipient.identity, cash.data⟩, cash] }

/-- A ledger that holds the token. -/
def cashLedger : Ledger := (Ledger.empty 0).update "mint" [] [(cashId, cash.toBytes)]

/-- What the sender signs to issue a token and to overspend the other. -/
def overspendMessage : Bytes :=
  TokenRequest.signedContent.encode
    ([(issue sender.identity [locked]).toBytes], [overspend.toBytes], "tx")

/-- The request with both actions. -/
def overspendRequest : TokenRequest :=
  ⟨[(issue sender.identity [locked]).toBytes], [overspend.toBytes],
    [Suite.sign Plain default overspendMessage, Suite.sign Plain default overspendMessage], []⟩

/-- Metadata of the reclaim that tells of one euro, where the token hides none. -/
def falseMetadata : RequestMetadata :=
  ⟨[], [⟨[lockedId], [swap.toIdentity], [swapInfo.toBytes],
    [Disclosure.toBytes ⟨{ lockedOpening with value := 1 }, none⟩], [sender.auditInfo],
    [sender.identity], [sender.auditInfo], []⟩], .empty⟩

set_option maxRecDepth 4096 in
theorem overspend_fits : overspend.Fits where
  countInputs := by decide
  inputs := List.forall_mem_singleton.mpr ⟨by decide, swap_fits.sender⟩
  countOutputs := by decide
  outputs := List.forall_mem_cons.mpr
    ⟨swap_fits.recipient, List.forall_mem_singleton.mpr swap_fits.sender⟩
  proof := by decide
  metadata := by decide
  countExtraSigners := by decide
  extraSigners := nofun

/-- Fewer range proofs than commitments are refused. -/
theorem verify_replicate_ne_ok {count : Nat} {values : List (Commitment Plain)}
    (fewer : count < values.length) (g : Generators Plain) (capacity bits : Nat) :
    RangeProofs.verify ⟨List.replicate count (rangeProof 0)⟩ values g capacity bits ≠ .ok () := by
  intro verified
  unfold RangeProofs.verify at verified
  refine (Outcome.guard_bind_eq_ok_iff.mp verified).1 ?_
  rw [List.length_replicate]
  exact Nat.ne_of_lt fewer

theorem verify_overspend_ne_ok : TransferProof.verify parameters overspend.inputCommitments
    overspend.commitments overspend.proof ≠ .ok () := by
  intro verified
  obtain ⟨-, proof, read, -, -, ranges⟩ := TransferProof.verify_eq_ok_iff.mp verified
  have fits : (transferProof cash.data).ranges.Fits := by
    show (List.replicate 2 (rangeProof 0)).length < Wire.lengthBound
    decide
  obtain rfl := Except.ok.inj (read.symm.trans (TransferProof.roundTrips fits).read_encode)
  exact verify_replicate_ne_ok (by decide) _ _ _ ranges

theorem verify_issueProof_ne_ok : IssueProof.verify parameters [locked.data, cash.data]
    (issue sender.identity [locked]).proof ≠ .ok () := by
  intro verified
  obtain ⟨-, proof, read, -, ranges⟩ := IssueProof.verify_eq_ok_iff.mp verified
  have fits : (issueProof [locked.data]).ranges.Fits := by
    show (List.replicate 1 (rangeProof 0)).length < Wire.lengthBound
    decide
  obtain rfl := Except.ok.inj (read.symm.trans (IssueProof.roundTrips fits).read_encode)
  exact verify_replicate_ne_ok (by decide) _ _ _ ranges

theorem validate_overspendRequest_ne_ok (actions : ValidatedActions Plain) :
    (((Validator.create parameters .default).validate cashLedger "tx" overspendRequest).perform []).1 ≠
      .ok actions := by
  intro accepted
  obtain ⟨message, acceptable⟩ := Validator.validate_eq_ok_iff.mp accepted
  obtain ⟨-, transfers⟩ := TokenRequest.readActions_eq_ok_iff.mp acceptable.read
  obtain ⟨transfer, rest, read, -, listed⟩ := List.forall₂_cons_left_iff.mp transfers
  obtain rfl := Except.ok.inj (read.symm.trans (TransferAction.ofBytes_toBytes overspend_fits))
  exact verify_overspend_ne_ok (acceptable.transfers overspend (listed ▸ List.mem_cons_self)).proved

theorem check_falseMetadata_ne_ok :
    (((Auditor.create parameters none .default).check reclaim falseMetadata [[locked]]
      "reclaim").perform []).1 ≠ .ok () := by
  intro audited
  have full := Auditor.inspect_eq_ok_iff.mp (Auditor.check_eq_ok_iff_inspect.mp audited)
  obtain ⟨action, read, disclosed⟩ := full.transfer 0 _ _ _ rfl rfl rfl
  obtain rfl := Except.ok.inj (read.symm.trans (TransferAction.ofBytes_toBytes giveBack_fits))
  obtain ⟨told, readTold, opens⟩ := disclosed.opened 0 _ _ rfl rfl
  rw [Disclosure.ofBytes_toBytes (by decide)] at readTold
  obtain rfl := Except.ok.inj readTold
  have log := (log_commitment_lockedOpening 1).symm.trans
    (congrArg (fun c : Commitment Plain => c.point.log) opens)
  exact absurd log (by decide)

theorem ofBytes_overspendRequest :
    TokenRequest.ofBytes (TokenRequest.codec.encode overspendRequest) = .ok overspendRequest := by
  have short : (TokenRequest.codec.encode overspendRequest).length < Wire.lengthBound := by
    decide +kernel
  exact Outcome.inContext_eq_ok_iff.mpr (TokenRequest.faithful.roundTrips short).read_encode

theorem validateBytes_overspendRequest_ne_ok (actions : ValidatedActions Plain) :
    (((Validator.create parameters .default).validateBytes cashLedger "tx"
      (TokenRequest.codec.encode overspendRequest)).perform []).1 ≠ .ok actions := by
  rw [Validator.validateBytes_of_read ofBytes_overspendRequest]
  exact validate_overspendRequest_ne_ok actions

/-- A request with an issue and a transfer whose proof is of another transfer, its bytes, a request with
metadata that tells another value, and proofs of fewer tokens than there are: all are refused, and for what
they are. -/
theorem refused_for_input_each :
    (∃ e, (((Validator.create parameters .default).validate cashLedger "tx"
        overspendRequest).perform []).1 = .error e ∧ (e.kind = .malformed ∨ e.kind = .verification)) ∧
    (∃ e, (((Validator.create parameters .default).validateBytes cashLedger "tx"
        (TokenRequest.codec.encode overspendRequest)).perform []).1 = .error e ∧
      (e.kind = .malformed ∨ e.kind = .verification)) ∧
    (∃ e, (((Auditor.create parameters none .default).check reclaim falseMetadata [[locked]]
        "reclaim").perform []).1 = .error e ∧ (e.kind = .malformed ∨ e.kind = .verification)) ∧
    (∃ e, IssueProof.verify parameters [locked.data, cash.data]
        (issue sender.identity [locked]).proof = .error e ∧ e.kind = .verification) ∧
    ∃ e, TransferProof.verify parameters overspend.inputCommitments overspend.commitments
        overspend.proof = .error e ∧ e.kind = .verification := by
  obtain ⟨validate, validateBytes, check, issues, transfers⟩ := refused_for_input parameters
  have refused {α : Type} {result : Outcome α} (fails : ∀ value, result ≠ .ok value) :
      ∃ e, result = .error e := by
    cases result with
    | ok value => exact absurd rfl (fails value)
    | error e => exact ⟨e, rfl⟩
  refine ⟨?_, ?_, ?_, ?_, ?_⟩
  · obtain ⟨e, failed⟩ := refused validate_overspendRequest_ne_ok
    exact ⟨e, failed, validate _ _ _ _ _ e failed⟩
  · obtain ⟨e, failed⟩ := refused validateBytes_overspendRequest_ne_ok
    exact ⟨e, failed, validateBytes _ _ _ _ _ e failed⟩
  · obtain ⟨e, failed⟩ := refused fun _ => check_falseMetadata_ne_ok
    exact ⟨e, failed, check _ _ _ _ _ _ _ e failed⟩
  · exact (issues _ _).resolve_left verify_issueProof_ne_ok
  · exact (transfers _ _ _).resolve_left verify_overspend_ne_ok

end Plain

end ConfidentialToken
