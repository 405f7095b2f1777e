import ConfidentialToken.Proofs.Action
import ConfidentialToken.Proofs.Validation.Rules
import ConfidentialToken.Proofs.Wire.Size

/-!
# Accepted requests

When the validator with the standard rules accepts a request, as one equivalence
(`Validator.validate_eq_ok_iff`): the auditors have signed, the actions are those that the request's
bytes read as, each is valid on its own, no id is spent twice, and the signatures are, one by one, those
of the required signers. What is said of accepted requests elsewhere is derived from it.
-/

namespace ConfidentialToken

/-! ## Requests under any rules -/

section

variable {P : Type} {v : Validator P} {setting : Setting P} {issueFact : IssueAction P → Prop}
  {issueSigners : IssueAction P → List Identity} {transferFact : TransferAction P → Prop}
  {transferSigners : TransferAction P → List Identity}

/-- What the rules of a validator demand in a setting: facts and signers for each action, and that a
transfer spends its inputs. -/
structure Validator.RulesDemand (v : Validator P) (setting : Setting P)
    (issueFact : IssueAction P → Prop) (issueSigners : IssueAction P → List Identity)
    (transferFact : TransferAction P → Prop) (transferSigners : TransferAction P → List Identity) :
    Prop where
  issue : ∀ what action, Demands setting (checkAction setting what v.issueRules action)
    (issueFact action) (issueSigners action) []
  transfer : ∀ what action, Demands setting (checkAction setting what v.transferRules action)
    (transferFact action) (transferSigners action) action.inputIds

/-- Rules accept actions exactly when what they demand of each holds, no id is spent twice, and the
signatures are those of the signers, none of them left over. -/
theorem Validator.checkRequest_eq_ok_iff (actions : ValidatedActions P) {signatures : List Bytes}
    {log : List LogRecord}
    (rules : v.RulesDemand setting issueFact issueSigners transferFact transferSigners) :
    ((v.checkRequest setting actions.issues actions.transfers).perform
        ⟨.ofList signatures, [], log⟩).1 = .ok () ↔
      (∀ action ∈ actions.issues, issueFact action) ∧
      (∀ action ∈ actions.transfers, transferFact action) ∧
      actions.spent.Nodup ∧
      List.Forall₂ setting.Signed
        (actions.issues.flatMap issueSigners ++ actions.transfers.flatMap transferSigners)
        signatures := by
  have issues : Demands setting _ _ _ _ :=
    Validator.demands_actions "issue" actions.issues rules.issue
  have transfers : Demands setting _ _ _ _ :=
    Validator.demands_actions "transfer" actions.transfers rules.transfer
  have ids : actions.issues.flatMap (fun _ => []) ++
      actions.transfers.flatMap TransferAction.inputIds = actions.spent := by
    simp [ValidatedActions.spent]
  have demands := (issues.bind transfers).congr Iff.rfl rfl ids
  rw [Task.fst_perform_eq_ok_iff]
  constructor
  · rintro ⟨_, run⟩
    unfold Validator.checkRequest at run
    obtain ⟨_, between, ranIssues, run⟩ := Task.perform_bind.mp run
    obtain ⟨_, p, ranTransfers, run⟩ := Task.perform_bind.mp run
    obtain ⟨⟨validIssues, validTransfers⟩, advances⟩ :=
      demands.sound (Task.perform_bind.mpr ⟨_, between, ranIssues, ranTransfers⟩)
    simp only [Task.perform_get_bind] at run
    split at run
    · simp at run
    · next usedUp =>
      obtain ⟨taken, hrest, hsigned⟩ := advances.signed
      rw [List.length_eq_zero_iff.mp (not_not.mp usedUp), List.append_nil] at hrest
      rw [← hrest] at hsigned
      exact ⟨validIssues, validTransfers, advances.nodup, hsigned⟩
  · rintro ⟨validIssues, validTransfers, nodup, signed⟩
    -- everything the demands add up to happens at once: all signatures are taken, all ids spent
    have advances : Progress.Advances setting
        (actions.issues.flatMap issueSigners ++ actions.transfers.flatMap transferSigners)
        actions.spent ⟨.ofList signatures, [], log⟩ ⟨⟨0, []⟩, actions.spent, []⟩ :=
      ⟨⟨signatures, (List.append_nil _).symm, signed⟩, rfl, nodup, List.disjoint_nil_left _⟩
    obtain ⟨p, run⟩ := demands.complete ⟨validIssues, validTransfers⟩ advances
    have usedUp : p.signatures.rest = [] := ((demands.sound run).2.agree advances).1
    obtain ⟨_, between, ranIssues, ranTransfers⟩ := Task.perform_bind.mp run
    refine ⟨p, ?_⟩
    unfold Validator.checkRequest
    refine Task.perform_bind.mpr ⟨_, between, ranIssues,
      Task.perform_bind.mpr ⟨_, p, ranTransfers, ?_⟩⟩
    rw [Task.perform_get_bind, if_neg (by simp [SignatureQueue.remaining, usedUp])]
    exact Task.perform_pure.mpr ⟨rfl, rfl⟩

/-- The setting that a validator's rules run in. -/
def Validator.settingFor (v : Validator P) (ledger : Ledger) (anchor : String) (message : Bytes) :
    Setting P :=
  ⟨v.parameters, ledger, anchor, message, v.verify, v.logger⟩

/-- A validator accepts a request exactly when the message can be written, the auditors have signed it,
the actions can be read, and the rules accept them. -/
theorem Validator.validate_eq_ok_iff_of_demands {ledger : Ledger} {anchor : String}
    {request : TokenRequest} {log : List LogRecord} {actions : ValidatedActions P}
    (rules : ∀ message, v.RulesDemand (v.settingFor ledger anchor message) issueFact issueSigners
      transferFact transferSigners) :
    ((v.validate ledger anchor request).perform log).1 = .ok actions ↔
      ∃ message, request.messageToSign anchor = .ok message ∧
        v.checkAuditors request message = .ok () ∧
        v.readActions request = .ok (actions.issues, actions.transfers) ∧
        (∀ action ∈ actions.issues, issueFact action) ∧
        (∀ action ∈ actions.transfers, transferFact action) ∧
        actions.spent.Nodup ∧
        List.Forall₂ (fun signer signature => v.verify signer message signature = .ok ())
          (actions.issues.flatMap issueSigners ++ actions.transfers.flatMap transferSigners)
          request.signatures := by
  rw [Task.fst_perform_eq_ok_iff]
  constructor
  · rintro ⟨_, run⟩
    unfold Validator.validate at run
    obtain ⟨_, _, -, run⟩ := Task.perform_bind.mp run
    obtain ⟨message, _, written, run⟩ := Task.perform_bind.mp run
    obtain ⟨_, _, audited, run⟩ := Task.perform_bind.mp run
    obtain ⟨⟨issues, transfers⟩, _, read, run⟩ := Task.perform_bind.mp run
    simp only [Task.perform_get_bind, Task.perform_set_bind] at run
    obtain ⟨_, _, verdict, done⟩ := Task.perform_bind.mp run
    obtain ⟨rfl, -⟩ := Task.perform_pure.mp done
    have accepted := (Validator.checkRequest_eq_ok_iff ⟨issues, transfers⟩ (rules message)).mp
      (Task.perform_lift.mp verdict).1
    refine ⟨message, (Task.perform_lift.mp written).1, ?_, ?_, accepted⟩
    · exact Outcome.inContext_eq_ok_iff.mp (Task.perform_lift.mp audited).1
    · exact Outcome.inContext_eq_ok_iff.mp (Task.perform_lift.mp read).1
  · rintro ⟨message, written, audited, read, accepted⟩
    have verdict : ∀ records, ((v.checkRequest (v.settingFor ledger anchor message) actions.issues
        actions.transfers).perform ⟨.ofList request.signatures, [], records⟩).1 = .ok () := fun _ =>
      (Validator.checkRequest_eq_ok_iff actions (rules message)).mpr accepted
    unfold Validator.validate
    refine Task.exists_perform_bind (a := ()) (Task.perform_debug.mpr rfl) ?_
    refine Task.exists_perform_bind (Task.perform_lift.mpr ⟨written, rfl⟩) ?_
    refine Task.exists_perform_bind
      (a := ()) (Task.perform_lift.mpr ⟨Outcome.inContext_eq_ok_iff.mpr audited, rfl⟩) ?_
    refine Task.exists_perform_bind
      (Task.perform_lift.mpr ⟨Outcome.inContext_eq_ok_iff.mpr read, rfl⟩) ?_
    simp only [Task.perform_get_bind, Task.perform_set_bind]
    exact Task.exists_perform_bind (a := ()) (Task.perform_lift.mpr ⟨verdict _, rfl⟩)
      ⟨_, Task.perform_pure.mpr ⟨rfl, rfl⟩⟩

end

/-! ## Requests under the standard rules -/

section

variable {P : Type} [Suite P]

/-- Among entries of which one is in the name of somebody there is a first one in that name. -/
theorem AuditorSignature.exists_first {entries : List AuditorSignature} {entry : AuditorSignature}
    (mem : entry ∈ entries) : ∃ found ∈ entries, found.identity = entry.identity ∧
      entries.find? (·.identity = entry.identity) = some found := by
  have some : (entries.find? (·.identity = entry.identity)).isSome :=
    List.find?_isSome.mpr ⟨entry, mem, decide_eq_true rfl⟩
  obtain ⟨found, first⟩ := Option.isSome_iff_exists.mp some
  have same : found.identity = entry.identity := by simpa using List.find?_some first
  exact ⟨found, List.mem_of_find?_eq_some first, same, first⟩

/-- An auditor's first signature in a request is valid over a message. -/
def TokenRequest.AuditedBy (P : Type) [Suite P] (request : TokenRequest) (message : Bytes)
    (auditor : Identity) : Prop :=
  ∃ found, request.auditorSignatures.find? (·.identity = auditor) = some found ∧
    auditor.verify P message found.signature = .ok ()

/-- What makes a request acceptable on a ledger: the message that was signed, and the actions. -/
structure TokenRequest.Acceptable (pp : PublicParameters P) (ledger : Ledger) (anchor : String)
    (request : TokenRequest) (message : Bytes) (actions : ValidatedActions P) : Prop where
  written : request.messageToSign anchor = .ok message
  audited : ∀ auditor ∈ pp.auditors, request.AuditedBy P message auditor
  read : request.readActions P = .ok (actions.issues, actions.transfers)
  issues : ∀ action ∈ actions.issues, action.Valid pp
  transfers : ∀ action ∈ actions.transfers, action.Valid pp ledger
  spentOnce : actions.spent.Nodup
  signed : List.Forall₂ (fun signer signature => signer.verify P message signature = .ok ())
    (actions.signers ledger.time) request.signatures

theorem Validator.checkAuditors_eq_ok_iff {pp : PublicParameters P} (logger : Logger)
    {request : TokenRequest} {message : Bytes} :
    (Validator.create pp logger).checkAuditors request message = .ok () ↔
      ∀ auditor ∈ pp.auditors, request.AuditedBy P message auditor := by
  refine Outcome.forM_eq_ok_iff.trans (forall₂_congr fun auditor _ => ?_)
  unfold Validator.checkAuditor TokenRequest.AuditedBy
  cases request.auditorSignatures.find? (·.identity = auditor) with
  | none => exact ⟨nofun, fun ⟨_, h, _⟩ => nomatch h⟩
  | some found =>
    simp only [Outcome.inContext_eq_ok_iff, Outcome.asVerification_eq_ok_iff, Option.some.injEq,
      exists_eq_left']
    rfl

/-- What the standard rules demand. -/
theorem Validator.rulesDemand_create (pp : PublicParameters P) (logger : Logger) (ledger : Ledger)
    (anchor : String) (message : Bytes) :
    (create pp logger).RulesDemand ((create pp logger).settingFor ledger anchor message)
      (fun action => action.Valid pp) (fun action => [action.issuer])
      (fun action => action.Valid pp ledger) (fun action =>
        action.inputs.map (·.token.owner.entitledAt ledger.time) ++ action.extraSigners) :=
  ⟨demands_issue, demands_transfer⟩

/-- The validator with the standard rules accepts exactly the acceptable requests. -/
theorem Validator.validate_eq_ok_iff {pp : PublicParameters P} {logger : Logger} {ledger : Ledger}
    {anchor : String} {request : TokenRequest} {log : List LogRecord}
    {actions : ValidatedActions P} :
    (((Validator.create pp logger).validate ledger anchor request).perform log).1 = .ok actions ↔
      ∃ message, request.Acceptable pp ledger anchor message actions := by
  have signers : actions.issues.flatMap (fun action => [action.issuer]) ++
      actions.transfers.flatMap (fun transfer =>
        transfer.inputs.map (·.token.owner.entitledAt ledger.time) ++ transfer.extraSigners) =
        actions.signers ledger.time := by
    rw [ValidatedActions.signers, List.map_eq_flatMap]
  rw [validate_eq_ok_iff_of_demands (rulesDemand_create pp logger ledger anchor), signers]
  refine exists_congr fun message => ?_
  rw [checkAuditors_eq_ok_iff]
  constructor
  · rintro ⟨written, audited, read, issues, transfers, spentOnce, signed⟩
    exact ⟨written, audited, read, issues, transfers, spentOnce, signed⟩
  · rintro ⟨written, audited, read, issues, transfers, spentOnce, signed⟩
    exact ⟨written, audited, read, issues, transfers, spentOnce, signed⟩

omit [Suite P] in
/-- The byte form of a request is decided as the request. -/
theorem Validator.validateBytes_of_read [PointGroup P] {v : Validator P} {ledger : Ledger} {anchor : String}
    {bytes : Bytes} {request : TokenRequest} (read : TokenRequest.ofBytes bytes = .ok request) :
    v.validateBytes ledger anchor bytes = v.validate ledger anchor request := by
  unfold validateBytes
  rw [read]
  rfl

end

/-! ## What follows for the actions -/

/-- A list of byte strings takes eight bytes for each, at the least. -/
theorem Wire.Codec.length_encode_bytes_list (values : List Bytes) :
    8 * values.length ≤ (Wire.Codec.bytes.list.encode values).length := by
  have each : 8 * values.length ≤ (values.flatMap Wire.Codec.bytes.encode).length := by
    induction values with
    | nil => exact Nat.le_refl _
    | cons value values ih =>
      rw [List.flatMap_cons, List.length_append, List.length_cons]
      have first := Wire.Codec.length_encode_bytes value
      omega
  rw [Wire.Codec.length_encode_list]
  omega

/-- What is signed is the byte form of actions and anchor, if it is not over the size limit. -/
theorem TokenRequest.messageToSign_eq_ok_iff {request : TokenRequest} {anchor : String}
    {message : Bytes} :
    request.messageToSign anchor = .ok message ↔
      message = signedContent.encode (request.issues, request.transfers, anchor) ∧
        message.length ≤ Wire.sizeLimit := by
  unfold messageToSign
  rw [Wire.Codec.write_eq_ok_iff, eq_comm]

/-- The byte strings of a list are no longer than the list is when it is written. -/
theorem Wire.Codec.length_le_encode_bytes_list {value : Bytes} {values : List Bytes}
    (mem : value ∈ values) : value.length ≤ (Wire.Codec.bytes.list.encode values).length := by
  have part : (Wire.Codec.bytes.encode value).length ≤ _ := Wire.Codec.length_encode_le_of_mem mem
  rw [Wire.Codec.length_encode_bytes] at part
  omega

/-- What is signed takes as many bytes as its parts. -/
theorem TokenRequest.length_signedContent (issues transfers : List Bytes) (anchor : String) :
    (signedContent.encode (issues, transfers, anchor)).length =
      (Wire.Codec.bytes.list.encode issues).length +
        ((Wire.Codec.bytes.list.encode transfers).length +
          (Wire.Codec.text.encode anchor).length) := by
  simp only [signedContent, Wire.Codec.pair, List.length_append]

/-- The actions of a message that can be signed are within the size limit together. -/
theorem TokenRequest.length_parts_le {request : TokenRequest} {anchor : String} {message : Bytes}
    (written : request.messageToSign anchor = .ok message) :
    (Wire.Codec.bytes.list.encode request.issues).length +
      (Wire.Codec.bytes.list.encode request.transfers).length ≤ Wire.sizeLimit := by
  obtain ⟨rfl, within⟩ := messageToSign_eq_ok_iff.mp written
  have parts := length_signedContent request.issues request.transfers anchor
  omega

/-- The actions of a request that can be signed are within the size limit one by one. -/
theorem TokenRequest.length_le_of_mem {request : TokenRequest} {anchor : String} {message : Bytes}
    (written : request.messageToSign anchor = .ok message) :
    (∀ bytes ∈ request.issues, bytes.length ≤ Wire.sizeLimit) ∧
      ∀ bytes ∈ request.transfers, bytes.length ≤ Wire.sizeLimit := by
  have within := length_parts_le written
  constructor
  · intro bytes mem
    have part := Wire.Codec.length_le_encode_bytes_list mem
    omega
  · intro bytes mem
    have part := Wire.Codec.length_le_encode_bytes_list mem
    omega

/-- A message that can be signed is about few actions: eight bytes stand for each. -/
theorem TokenRequest.length_actions_le {request : TokenRequest} {anchor : String} {message : Bytes}
    (written : request.messageToSign anchor = .ok message) :
    8 * (request.issues.length + request.transfers.length) ≤ Wire.sizeLimit := by
  have within := length_parts_le written
  have issues := Wire.Codec.length_encode_bytes_list request.issues
  have transfers := Wire.Codec.length_encode_bytes_list request.transfers
  omega

namespace TokenRequest.Acceptable

variable {P : Type} [Suite P] {pp : PublicParameters P} {ledger : Ledger} {anchor : String}
  {request : TokenRequest} {message : Bytes} {actions : ValidatedActions P}

/-- The inputs of an accepted request were read, so they can be written and read again. -/
theorem inputs_fit (h : request.Acceptable pp ledger anchor message actions) :
    ∀ transfer ∈ actions.transfers, ∀ input ∈ transfer.inputs, input.token.Fits :=
  fun transfer mem => ((fits_of_readActions h.read).2 transfer mem).1

/-- So can the outputs. -/
theorem outputs_fit (h : request.Acceptable pp ledger anchor message actions) :
    ∀ output ∈ Ledger.outputsOf actions.issues actions.transfers, output.Fits := by
  obtain ⟨hissues, htransfers⟩ := fits_of_readActions h.read
  intro output mem
  rcases List.mem_append.mp mem with mem | mem
  · obtain ⟨issue, hissue, mem⟩ := List.mem_flatMap.mp mem
    exact hissues issue hissue output mem
  · obtain ⟨transfer, htransfer, mem⟩ := List.mem_flatMap.mp mem
    exact (htransfers transfer htransfer).2 output mem

/-- The outputs of an accepted request are within the size limit, as the request itself is. -/
theorem length_output_le (h : request.Acceptable pp ledger anchor message actions) :
    ∀ output ∈ Ledger.outputsOf actions.issues actions.transfers,
      output.toBytes.length ≤ Wire.sizeLimit := by
  obtain ⟨shortIssues, shortTransfers⟩ := length_le_of_mem h.written
  obtain ⟨hissues, htransfers⟩ := readActions_eq_ok_iff.mp h.read
  have ofIssues : ∀ issue ∈ actions.issues, ∀ output ∈ issue.outputs,
      output.toBytes.length ≤ Wire.sizeLimit := by
    refine forall_mem_of_forall₂_read (fun bytes source issue read output mem => ?_) hissues
    exact (IssueAction.length_output_le read output mem).trans (shortIssues bytes source)
  have ofTransfers : ∀ transfer ∈ actions.transfers, ∀ output ∈ transfer.outputs,
      output.toBytes.length ≤ Wire.sizeLimit := by
    refine forall_mem_of_forall₂_read (fun bytes source transfer read output mem => ?_) htransfers
    exact (TransferAction.length_output_le read output mem).trans (shortTransfers bytes source)
  intro output mem
  rcases List.mem_append.mp mem with mem | mem
  · obtain ⟨issue, hissue, mem⟩ := List.mem_flatMap.mp mem
    exact ofIssues issue hissue output mem
  · obtain ⟨transfer, htransfer, mem⟩ := List.mem_flatMap.mp mem
    exact ofTransfers transfer htransfer output mem

/-- The outputs of an accepted request can be numbered by 64 bits. -/
theorem length_outputs_lt (h : request.Acceptable pp ledger anchor message actions) :
    (Ledger.outputsOf actions.issues actions.transfers).length < UInt64.size := by
  have few := length_actions_le h.written
  obtain ⟨hissues, htransfers⟩ := readActions_eq_ok_iff.mp h.read
  rw [hissues.length_eq, htransfers.length_eq] at few
  have ofIssues : (actions.issues.flatMap IssueAction.outputs).length ≤
      actions.issues.length * maxOutputs :=
    length_flatMap_le fun issue mem =>
      (IssueAction.check_eq_ok_iff.mp (h.issues issue mem).wellFormed).2.1.2
  have ofTransfers : (actions.transfers.flatMap TransferAction.outputs).length ≤
      actions.transfers.length * maxOutputs :=
    length_flatMap_le fun transfer mem =>
      (TransferAction.check_eq_ok_iff.mp (h.transfers transfer mem).wellFormed).2.2.1.2
  unfold Ledger.outputsOf
  rw [List.length_append]
  -- at most 2 ^ 23 actions with 256 outputs each
  simp only [maxOutputs, Wire.sizeLimit, UInt64.size] at *
  omega

end TokenRequest.Acceptable

end ConfidentialToken
