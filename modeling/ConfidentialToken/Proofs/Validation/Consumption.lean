import ConfidentialToken.Proofs.Suite.Requests

/-!
# Consumption of signatures

The rules take the signatures of a request one by one, each between other checks. All in all they take
exactly those that are required: the issuers of the issues sign first, then for each transfer those
entitled to its inputs and its extra signers. So an accepted request has a valid signature in each place
and none besides, and a request that breaks no other rule is refused over its signatures alone.

What the other rules are is said by a validator that is like the standard one and asks for no signature.
-/

namespace ConfidentialToken

/-! ## Required signers -/

/-- The signers that a request requires at time `now`, in order. There are none if a script that owns
an input cannot be read. -/
def ValidatedActions.required {P : Type} (actions : ValidatedActions P) (now : UInt64) :
    Outcome (List Identity) := do
  let ofTransfers ← actions.transfers.mapM fun transfer => do
    let entitled ← transfer.inputs.mapM fun input => input.token.owner.signerAt now
    return entitled ++ transfer.extraSigners
  return actions.issues.map IssueAction.issuer ++ ofTransfers.flatten

theorem Identity.signerAt_eq_ok {owner : Identity} {now : UInt64}
    (readable : ∃ signer, owner.signerAt now = .ok signer) :
    owner.signerAt now = .ok (owner.entitledAt now) := by
  obtain ⟨signer, h⟩ := readable
  rw [h, entitledAt_of_signerAt h]

/-- Where the scripts that own inputs can be read, the required signers are those that the rules ask. -/
theorem ValidatedActions.required_eq_ok {P : Type} {actions : ValidatedActions P} {now : UInt64}
    (readable : ∀ transfer ∈ actions.transfers, ∀ input ∈ transfer.inputs,
      ∃ signer, input.token.owner.signerAt now = .ok signer) :
    actions.required now = .ok (actions.signers now) := by
  have ofTransfers : actions.transfers.mapM (fun transfer => do
      let entitled ← transfer.inputs.mapM fun input => input.token.owner.signerAt now
      return entitled ++ transfer.extraSigners) =
      Except.ok (ε := Error) (actions.transfers.map fun transfer =>
        transfer.inputs.map (·.token.owner.entitledAt now) ++ transfer.extraSigners) := by
    rw [Outcome.mapM_eq_ok_iff, List.forall₂_map_right_iff, List.forall₂_same]
    intro transfer htransfer
    refine Outcome.bind_eq_ok_iff.mpr ⟨transfer.inputs.map (·.token.owner.entitledAt now), ?_, rfl⟩
    rw [Outcome.mapM_eq_ok_iff, List.forall₂_map_right_iff, List.forall₂_same]
    intro input hinput
    exact Identity.signerAt_eq_ok (readable transfer htransfer input hinput)
  refine Outcome.bind_eq_ok_iff.mpr ⟨_, ofTransfers, ?_⟩
  rw [← List.flatMap_def]
  rfl

variable {P : Type} [Suite P] {pp : PublicParameters P} {logger : Logger} {ledger : Ledger}
  {anchor : String} {request : TokenRequest} {message : Bytes} {actions : ValidatedActions P}

theorem ValidatedActions.required_of_valid
    (valid : ∀ transfer ∈ actions.transfers, transfer.Valid pp ledger) :
    actions.required ledger.time = .ok (actions.signers ledger.time) := by
  apply required_eq_ok
  intro transfer htransfer input hinput
  rw [Identity.exists_signerAt_iff]
  intro isScript
  obtain ⟨script, read, -⟩ := (valid transfer htransfer).released input hinput isScript
  exact ⟨script, read⟩

/-! ## The rules without signatures -/

/-- An issue is well formed, its issuer is authorized, and its proof holds. -/
def Rule.issueUnsigned : Rule P (IssueAction P) where
  name := "IssueValidate"
  check setting action := do
    action.check
    authorize setting.parameters action.issuer
    IssueProof.verify setting.parameters action.commitments action.proof

/-- The standard rules, the rule for the signatures of transfers left out and those for issues without
the signature of the issuer. -/
def Validator.createUnsigned (parameters : PublicParameters P) (parent : Logger) : Validator P :=
  { create parameters parent with
    issueRules := [Rule.issueUnsigned]
    transferRules := [Rule.transferInputs, Rule.transferProof, Rule.transferScripts] }

/-- The request without its signatures; those of auditors stay. -/
def TokenRequest.unsigned (request : TokenRequest) : TokenRequest := { request with signatures := [] }

theorem Rule.demands_issueUnsigned {setting : Setting P} (action : IssueAction P) :
    Demands setting (Rule.issueUnsigned.check setting action) (action.Valid setting.parameters)
      [] [] := by
  refine ((Demands.lift action.check).bind <|
    (Demands.lift (Rule.authorize _ _)).bind <|
    Demands.lift (IssueProof.verify _ _ _)).congr ?_ rfl rfl
  exact ⟨fun ⟨hc, ha, hp⟩ => ⟨hc, ha, hp⟩, fun ⟨hc, ha, hp⟩ => ⟨hc, ha, hp⟩⟩

/-- Without signatures the rules demand the same facts, and no signers. -/
theorem Validator.rulesDemand_createUnsigned (pp : PublicParameters P) (logger : Logger)
    (ledger : Ledger) (anchor : String) (message : Bytes) :
    (createUnsigned pp logger).RulesDemand ((createUnsigned pp logger).settingFor ledger anchor message)
      (fun action => action.Valid pp) (fun _ => [])
      (fun action => action.Valid pp ledger) (fun _ => []) where
  issue what action :=
    (((Rule.demands_issueUnsigned action).inContext _).bind Demands.pure).congr
      (and_iff_left trivial) rfl rfl
  transfer what action := by
    refine (((Rule.demands_transferInputs action).inContext _).bind <|
      ((Rule.demands_transferProof action).inContext _).bind <|
      ((Rule.demands_transferScripts action).inContext _).bind Demands.pure).congr ?_ rfl ?_
    · constructor
      · rintro ⟨⟨wellFormed, stored⟩, proved, ⟨released, held⟩, -⟩
        exact ⟨wellFormed, stored, proved, released, held⟩
      · rintro ⟨wellFormed, stored, proved, released, held⟩
        exact ⟨⟨wellFormed, stored⟩, proved, ⟨released, held⟩, trivial⟩
    · simp only [List.append_nil]

/-! ## What acceptance consumes -/

omit [Suite P] in
/-- An authorized issuer is one that the parameters name, if they name any. -/
theorem Rule.mem_issuers_of_authorize {issuer : Identity}
    (authorized : Rule.authorize pp issuer = .ok ()) (named : pp.issuers ≠ []) :
    issuer ∈ pp.issuers := by
  unfold Rule.authorize at authorized
  rw [Outcome.require_eq_ok_iff, Bool.or_eq_true, List.isEmpty_iff] at authorized
  exact of_decide_eq_true (authorized.resolve_left named)

/-- The auditor's signature is an entry of the request. -/
theorem TokenRequest.AuditedBy.exists_entry {auditor : Identity}
    (audited : request.AuditedBy P message auditor) :
    ∃ entry ∈ request.auditorSignatures, entry.identity = auditor ∧
      auditor.verify P message entry.signature = .ok () := by
  obtain ⟨entry, found, verified⟩ := audited
  have same := List.find?_some found
  exact ⟨entry, List.mem_of_find?_eq_some found, of_decide_eq_true same, verified⟩

/-- The accepted actions are those that the request reads as. -/
theorem Validator.eq_of_validate {log : List LogRecord} {accepted : ValidatedActions P}
    (read : request.readActions P = .ok (actions.issues, actions.transfers))
    (h : (((create pp logger).validate ledger anchor request).perform log).1 = .ok accepted) :
    accepted = actions := by
  obtain ⟨_, acceptable⟩ := validate_eq_ok_iff.mp h
  obtain ⟨issues, transfers⟩ := accepted
  have same := Except.ok.inj (acceptable.read.symm.trans read)
  obtain ⟨rfl, rfl⟩ := Prod.mk.inj same
  rfl

/-- A request is refused exactly when its actions are not accepted. -/
theorem Validator.refused_iff {log : List LogRecord}
    (read : request.readActions P = .ok (actions.issues, actions.transfers)) :
    (∃ e, (((create pp logger).validate ledger anchor request).perform log).1 = .error e) ↔
      ¬(((create pp logger).validate ledger anchor request).perform log).1 = .ok actions := by
  cases verdict : (((create pp logger).validate ledger anchor request).perform log).1 with
  | error e => exact ⟨fun _ => nofun, fun _ => ⟨e, rfl⟩⟩
  | ok accepted =>
    obtain rfl := eq_of_validate read verdict
    exact ⟨nofun, fun refused => absurd rfl refused⟩

/-- A request that breaks no other rule is accepted exactly when its signatures are, one by one, those
of the signers. -/
theorem Validator.validate_iff_signed {log : List LogRecord}
    (unsigned : (((createUnsigned pp logger).validate ledger anchor request.unsigned).perform log).1 =
      .ok actions) :
    ∃ message, request.messageToSign anchor = .ok message ∧
      actions.required ledger.time = .ok (actions.signers ledger.time) ∧
      ((((create pp logger).validate ledger anchor request).perform log).1 = .ok actions ↔
        List.Forall₂ (fun signer signature => signer.verify P message signature = .ok ())
          (actions.signers ledger.time) request.signatures) := by
  obtain ⟨message, written, audited, read, issues, transfers, spentOnce, -⟩ :=
    (validate_eq_ok_iff_of_demands (rulesDemand_createUnsigned pp logger ledger anchor)).mp unsigned
  refine ⟨message, written, ValidatedActions.required_of_valid transfers, ?_⟩
  -- both validators demand the same facts, so that only the signatures are left to decide
  rw [validate_eq_ok_iff]
  constructor
  · rintro ⟨other, acceptable⟩
    obtain rfl : message = other := Except.ok.inj (written.symm.trans acceptable.written)
    exact acceptable.signed
  · intro signed
    have audited := (checkAuditors_eq_ok_iff logger).mp audited
    exact ⟨message, written, audited, read, issues, transfers, spentOnce, signed⟩

/-- A request with actions that can be read is accepted only with as many signatures as signers are
required, each of them valid for the signer in its place, with the signatures of all auditors, and with
authorized issuers. If it breaks no rule but those for signatures, it is refused exactly when there are
too many or too few or one of them is not valid. -/
theorem Validator.signatures_consumed (pp : PublicParameters P) (logger : Logger)
    (log : List LogRecord) (ledger : Ledger) (anchor : String) (request : TokenRequest)
    (actions : ValidatedActions P)
    (read : request.readActions P = .ok (actions.issues, actions.transfers)) :
    (∀ accepted,
      (((create pp logger).validate ledger anchor request).perform log).1 = .ok accepted →
      accepted = actions ∧ ∃ message required, request.messageToSign anchor = .ok message ∧
        actions.required ledger.time = .ok required ∧
        request.signatures.length = required.length ∧
        (∀ k (_ : k < required.length) (_ : k < request.signatures.length),
          required[k].verify P message request.signatures[k] = .ok ()) ∧
        (∀ auditor ∈ pp.auditors, ∃ entry ∈ request.auditorSignatures, entry.identity = auditor ∧
          auditor.verify P message entry.signature = .ok ()) ∧
        (pp.issuers ≠ [] → ∀ issue ∈ actions.issues, issue.issuer ∈ pp.issuers)) ∧
    ((((createUnsigned pp logger).validate ledger anchor request.unsigned).perform log).1 =
        .ok actions →
      ∃ message required, request.messageToSign anchor = .ok message ∧
        actions.required ledger.time = .ok required ∧
        ((∃ e, (((create pp logger).validate ledger anchor request).perform log).1 = .error e) ↔
          request.signatures.length ≠ required.length ∨
          ∃ (k : Nat) (_ : k < required.length) (_ : k < request.signatures.length),
            required[k].verify P message request.signatures[k] ≠ .ok ())) := by
  constructor
  · intro accepted h
    obtain rfl := eq_of_validate read h
    obtain ⟨message, acceptable⟩ := validate_eq_ok_iff.mp h
    obtain ⟨length, verified⟩ := List.forall₂_iff_get.mp acceptable.signed
    refine ⟨rfl, message, _, acceptable.written,
      ValidatedActions.required_of_valid acceptable.transfers, length.symm, verified, ?_, ?_⟩
    · intro auditor mem
      exact (acceptable.audited auditor mem).exists_entry
    · intro named issue mem
      exact Rule.mem_issuers_of_authorize (acceptable.issues issue mem).authorized named
  · intro unsigned
    obtain ⟨message, written, required, accepted_iff⟩ := validate_iff_signed unsigned
    refine ⟨message, _, written, required, ?_⟩
    rw [refused_iff read, accepted_iff, List.forall₂_iff_get, not_and_or, not_forall, eq_comm]
    simp only [not_forall, List.get_eq_getElem]

/-- The reclaim of a swap is accepted with the one signature that it takes, and refused without it. -/
theorem Validator.reclaim_consumed :
    (∃ message required, Plain.reclaim.messageToSign "reclaim" = .ok message ∧
      ValidatedActions.required ⟨[], [Plain.giveBack]⟩ 10 = .ok required ∧
      Plain.reclaim.signatures.length = required.length ∧
      ∀ k (_ : k < required.length) (_ : k < Plain.reclaim.signatures.length),
        required[k].verify Plain message Plain.reclaim.signatures[k] = .ok ()) ∧
    ∃ e, (((create Plain.parameters .default).validate (Plain.lockedAt 10) "reclaim"
      Plain.reclaim.unsigned).perform []).1 = .error e := by
  have acceptable := Plain.reclaim_acceptable (Plain.state?_lockedAt 10) (by decide)
  have accepted : (((create Plain.parameters .default).validate (Plain.lockedAt 10) "reclaim"
      Plain.reclaim).perform []).1 = .ok ⟨[], [Plain.giveBack]⟩ :=
    validate_eq_ok_iff.mpr ⟨_, acceptable⟩
  have unsigned : (((createUnsigned Plain.parameters .default).validate (Plain.lockedAt 10) "reclaim"
      Plain.reclaim.unsigned).perform []).1 = .ok ⟨[], [Plain.giveBack]⟩ :=
    (validate_eq_ok_iff_of_demands (rulesDemand_createUnsigned _ _ _ _)).mpr
      ⟨_, acceptable.written, (checkAuditors_eq_ok_iff .default).mpr acceptable.audited,
        acceptable.read, acceptable.issues, acceptable.transfers, acceptable.spentOnce, .nil⟩
  obtain ⟨-, message, required, written, asked, length, verified, -⟩ :=
    (signatures_consumed Plain.parameters .default [] (Plain.lockedAt 10) "reclaim" Plain.reclaim
      ⟨[], [Plain.giveBack]⟩ acceptable.read).1 _ accepted
  refine ⟨⟨message, required, written, asked, length, verified⟩, ?_⟩
  obtain ⟨_, asked', -, same, refused_iff⟩ :=
    (signatures_consumed Plain.parameters .default [] (Plain.lockedAt 10) "reclaim"
      Plain.reclaim.unsigned ⟨[], [Plain.giveBack]⟩ acceptable.read).2 unsigned
  obtain rfl : required = asked' := Except.ok.inj (asked.symm.trans same)
  refine refused_iff.mpr (.inl ?_)
  rw [← length]
  exact nofun

end ConfidentialToken
