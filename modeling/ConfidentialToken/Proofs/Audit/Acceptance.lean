import ConfidentialToken.Proofs.Audit.Description

/-!
# What the auditor accepts

The auditor pairs up to six lists for each action and looks at the pairs one by one. Here all of it is
one relation between a request, its metadata and the spent tokens, in terms of places in these lists;
the check succeeds exactly where the relation holds, whatever the transaction is called and whatever was
reported before.
-/

namespace ConfidentialToken

variable {P : Type} [PointGroup P]

/-! ## The relation -/

/-- A disclosure can be read, and what it tells is committed to in the token. -/
def Token.OpenedBy (token : Token P) (g : Generators P) (disclosure : Bytes) : Prop :=
  ∃ told, Disclosure.ofBytes disclosure = .ok told ∧ told.opening.commitment g = token.data

/-- Metadata tells all of an issue: there is a disclosure for each output and audit info for at least
as many owners; every output has an owner, opens as disclosed, and its owner is the one described. -/
structure IssueAction.DisclosedBy (action : IssueAction P) (g : Generators P)
    (metadata : IssueMetadata) : Prop where
  disclosures : metadata.outputsMetadata.length = action.outputs.length
  infos : action.outputs.length ≤ metadata.receiverAuditInfos.length
  owned : ∀ output ∈ action.outputs, output.isRedeemed = false
  opened : ∀ (i : Nat) (output : Token P) disclosure, action.outputs[i]? = some output →
    metadata.outputsMetadata[i]? = some disclosure → output.OpenedBy g disclosure
  described : ∀ (i : Nat) (output : Token P) info, action.outputs[i]? = some output →
    metadata.receiverAuditInfos[i]? = some info → output.owner.DescribedBy P info

/-- Metadata and spent tokens tell all of a transfer: its inputs are the spent tokens, with audit info
for each; there is a disclosure and audit info for each output; every output opens as disclosed; every
owner is the one described, where there is one. -/
structure TransferAction.DisclosedBy (action : TransferAction P) (g : Generators P)
    (metadata : TransferMetadata) (spent : List (Token P)) : Prop where
  spends : action.inputs.map ActionInput.token = spent
  senders : metadata.senderAuditInfos.length = spent.length
  sender : ∀ (i : Nat) (token : Token P) info, spent[i]? = some token →
    metadata.senderAuditInfos[i]? = some info → token.isRedeemed = false →
    token.owner.DescribedBy P info
  disclosures : metadata.outputsMetadata.length = action.outputs.length
  infos : metadata.outputAuditInfos.length = action.outputs.length
  opened : ∀ (i : Nat) (output : Token P) disclosure, action.outputs[i]? = some output →
    metadata.outputsMetadata[i]? = some disclosure → output.OpenedBy g disclosure
  described : ∀ (i : Nat) (output : Token P) info, action.outputs[i]? = some output →
    metadata.outputAuditInfos[i]? = some info → output.isRedeemed = false →
    output.owner.DescribedBy P info

/-- Metadata and spent tokens tell all of a request, action by action. -/
structure TokenRequest.DisclosedBy (request : TokenRequest) (g : Generators P)
    (metadata : RequestMetadata) (spent : List (List (Token P))) : Prop where
  issues : request.issues.length = metadata.issues.length
  transfers : request.transfers.length = metadata.transfers.length
  spends : spent.length = metadata.transfers.length
  issue : ∀ (k : Nat) bytes told, request.issues[k]? = some bytes → metadata.issues[k]? = some told →
    ∃ action : IssueAction P, IssueAction.ofBytes bytes = .ok action ∧ action.DisclosedBy g told
  transfer : ∀ (k : Nat) bytes told tokens, request.transfers[k]? = some bytes →
    metadata.transfers[k]? = some told → spent[k]? = some tokens →
    ∃ action : TransferAction P, TransferAction.ofBytes bytes = .ok action ∧
      action.DisclosedBy g told tokens

/-! ## One token -/

omit [PointGroup P] in
theorem AuditableToken.ofOutput_eq_ok_iff {index : Nat} {token : Token P} {disclosure info : Bytes}
    {made : AuditableToken P} :
    ofOutput index token disclosure info = .ok made ↔
      ∃ told, Disclosure.ofBytes disclosure = .ok told ∧ ⟨token, told.opening, info⟩ = made := by
  simp only [ofOutput, Outcome.bind_eq_ok_iff, Outcome.inContext_eq_ok_iff]
  exact exists_congr fun _ => and_congr_right fun _ => ⟨Except.ok.inj, congrArg _⟩

/-- What is told about an output is true: it opens so and, unless redeemed, has the owner described. -/
structure AuditableToken.TrueUnder (output : AuditableToken P) (g : Generators P) : Prop where
  opened : ∃ opening, output.opening = some opening ∧ opening.commitment g = output.token.data
  described : output.token.isRedeemed = false →
    output.token.owner.DescribedBy P output.ownerInfo

/-- What is paired for an output is true when the output opens and its owner is described. -/
theorem AuditableToken.exists_ofOutput_iff {g : Generators P} {index : Nat} {token : Token P}
    {disclosure info : Bytes} :
    (∃ made, ofOutput index token disclosure info = .ok made ∧ made.TrueUnder g) ↔
      token.OpenedBy g disclosure ∧
        (token.isRedeemed = false → token.owner.DescribedBy P info) := by
  simp only [ofOutput_eq_ok_iff]
  constructor
  · rintro ⟨_, ⟨told, read, rfl⟩, ⟨_, ⟨⟩, opens⟩, described⟩
    exact ⟨⟨told, read, opens⟩, described⟩
  · rintro ⟨⟨told, read, opens⟩, described⟩
    exact ⟨_, ⟨told, read, rfl⟩, ⟨_, rfl, opens⟩, described⟩

namespace Auditor

/-- The place of an output only serves to name it. -/
theorem inspectOutput_eq_ok_iff {auditor : Auditor P} {output : AuditableToken P} {index : Nat} :
    auditor.inspectOutput output index = .ok () ↔
      output.TrueUnder auditor.parameters.generators := by
  obtain ⟨token, opening, info⟩ := output
  cases opening with
  | none => exact ⟨nofun, fun ⟨⟨_, absent, _⟩, _⟩ => nomatch absent⟩
  | some opening =>
    have passes : auditor.inspectOutput ⟨token, some opening, info⟩ index = .ok () ↔
        opening.commitment auditor.parameters.generators = token.data ∧
          (token.isRedeemed = false → token.owner.DescribedBy P info) := by
      simp only [inspectOutput, Outcome.guard_bind_eq_ok_iff, Opening.opens, Bool.not_eq_true',
        decide_eq_false_iff_not, not_not]
      refine and_congr_right fun _ => ?_
      cases token.isRedeemed with
      | true => exact ⟨fun _ => nofun, fun _ => rfl⟩
      | false => simp [inspectOwner_eq_ok_iff]
    rw [passes]
    exact ⟨fun ⟨opens, described⟩ => ⟨⟨_, rfl, opens⟩, described⟩,
      fun ⟨⟨_, same, opens⟩, described⟩ => ⟨Option.some.inj same ▸ opens, described⟩⟩

theorem inspectOutputs_eq_ok_iff {auditor : Auditor P} {outputs : List (AuditableToken P)} :
    auditor.inspectOutputs outputs = .ok () ↔
      ∀ output ∈ outputs, output.TrueUnder auditor.parameters.generators := by
  rw [← forall_mem_withPositions]
  simp only [inspectOutputs, Outcome.forM_eq_ok_iff, Outcome.inContext_eq_ok_iff,
    inspectOutput_eq_ok_iff]

theorem inspectInputs_eq_ok_iff {inputs : List (AuditableToken P)} :
    inspectInputs inputs = .ok () ↔ ∀ input ∈ inputs,
      input.token.isRedeemed = false → input.token.owner.DescribedBy P input.ownerInfo := by
  rw [← forall_mem_withPositions]
  simp only [inspectInputs, Outcome.forM_eq_ok_iff]
  refine forall₂_congr fun entry _ => ?_
  split
  · next redeemed => exact ⟨fun _ owned => (nomatch redeemed.symm.trans owned), fun _ => rfl⟩
  · next owned =>
    rw [Outcome.inContext_eq_ok_iff, inspectOwner_eq_ok_iff]
    exact ⟨fun described _ => described, fun described => described (by simpa using owned)⟩

end Auditor

/-! ## One action -/

namespace AuditableToken

/-- An output of an issue can be paired, and what is told is true, when it has an owner and there is
audit info in its place. -/
theorem exists_ofIssue_entry_iff {g : Generators P} {metadata : IssueMetadata} {i : Nat}
    {output : Token P} {disclosure : Bytes} :
    (∃ made, (if output.isRedeemed then throw <| .malformed "issue cannot redeem tokens"
      else match metadata.receiverAuditInfos[i]? with
        | some info => ofOutput i output disclosure info
        | none => throw <| .malformed "issue must have at least one receiver") = Except.ok made ∧
      made.TrueUnder g) ↔
    output.isRedeemed = false ∧ output.OpenedBy g disclosure ∧
      ∃ info, metadata.receiverAuditInfos[i]? = some info ∧ output.owner.DescribedBy P info := by
  simp only [Outcome.guard_eq_ok_iff, Bool.not_eq_true]
  cases metadata.receiverAuditInfos[i]? with
  | none =>
    exact ⟨fun ⟨_, ⟨_, absurd⟩, _⟩ => (nomatch absurd), fun ⟨_, _, _, absurd, _⟩ => (nomatch absurd)⟩
  | some info =>
    simp only [Option.some.injEq, exists_eq_left', and_assoc, exists_and_left,
      exists_ofOutput_iff]
    exact and_congr_right fun owned => and_congr_right fun _ =>
      ⟨fun described => described owned, fun described _ => described⟩

/-- The outputs of an issue can be paired, and all that is told is true, when metadata tells all. -/
theorem exists_ofIssue_iff {g : Generators P} {index : Nat} {bytes : Bytes}
    {metadata : IssueMetadata} :
    (∃ outputs, ofIssue index bytes metadata = .ok outputs ∧ ∀ output ∈ outputs,
      output.TrueUnder g) ↔
    ∃ action : IssueAction P, IssueAction.ofBytes bytes = .ok action ∧
      action.DisclosedBy g metadata := by
  simp only [ofIssue, Outcome.bind_eq_ok_iff, Outcome.inContext_eq_ok_iff,
    Outcome.guard_bind_eq_ok_iff, ne_eq, not_not]
  simp only [← exists_and_right, and_assoc]
  rw [exists_comm]
  simp only [exists_and_left, exists_mapM_withPositions_zip_iff]
  refine exists_congr fun action => and_congr_right fun _ => ?_
  constructor
  · rintro ⟨length, each⟩
    -- the pairing gives an entry to every output only because there are as many disclosures
    have paired (i : Nat) (output : Token P) (there : action.outputs[i]? = some output) :
        ∃ disclosure, metadata.outputsMetadata[i]? = some disclosure ∧
          output.isRedeemed = false ∧ output.OpenedBy g disclosure ∧
          ∃ info, metadata.receiverAuditInfos[i]? = some info ∧ output.owner.DescribedBy P info := by
      have bound : i < metadata.outputsMetadata.length :=
        length ▸ (List.getElem?_eq_some_iff.mp there).1
      have disclosed := List.getElem?_eq_getElem bound
      exact ⟨_, disclosed, exists_ofIssue_entry_iff.mp (each i output _ there disclosed)⟩
    refine ⟨length.symm, ?_, ?_, ?_, ?_⟩
    · -- an output without audit info would have been refused
      by_contra fewer
      have there := List.getElem?_eq_getElem (Nat.lt_of_not_le fewer)
      obtain ⟨_, -, -, -, info, told, -⟩ := paired _ _ there
      exact Nat.lt_irrefl _ (List.getElem?_eq_some_iff.mp told).1
    · intro output listed
      obtain ⟨i, there⟩ := List.mem_iff_getElem?.mp listed
      obtain ⟨_, -, owned, -⟩ := paired i output there
      exact owned
    · intro i output disclosure there disclosed
      obtain ⟨_, disclosed', -, opened, -⟩ := paired i output there
      rwa [Option.some.inj (disclosed.symm.trans disclosed')]
    · intro i output info there told
      obtain ⟨_, -, -, -, info', told', described⟩ := paired i output there
      rwa [Option.some.inj (told.symm.trans told')]
  · intro full
    refine ⟨full.disclosures.symm, fun i output disclosure there disclosed => ?_⟩
    have bound : i < metadata.receiverAuditInfos.length :=
      Nat.lt_of_lt_of_le (List.getElem?_eq_some_iff.mp there).1 full.infos
    have told := List.getElem?_eq_getElem bound
    exact exists_ofIssue_entry_iff.mpr ⟨full.owned _ (List.mem_of_getElem? there),
      full.opened i _ _ there disclosed, _, told, full.described i _ _ there told⟩

omit [PointGroup P] in
/-- The search for a spent token that differs from its input ends without one exactly when the inputs are
the spent tokens. -/
theorem search_eq_none_iff {spent : List (Token P)} {inputs : List (ActionInput P)}
    {differ : Token P × ActionInput P → Bool} {place : Option Nat}
    (found : (spent.zip inputs).findIdx? differ = place)
    (tells : ∀ pair, differ pair = false ↔ pair.1 = pair.2.token) :
    inputs.length = spent.length ∧ place = none ↔ inputs.map ActionInput.token = spent := by
  rw [← found, eq_comm (b := spent), ← List.forall₂_eq_eq_eq, List.forall₂_map_right_iff,
    List.forall₂_iff_zip, List.findIdx?_eq_none_iff, eq_comm]
  simp only [Prod.forall, tells]

/-- The inputs of a transfer can be paired when they are the spent tokens, with audit info for each. -/
theorem ofInputs_eq_ok_iff {index : Nat} {action : TransferAction P} {metadata : TransferMetadata}
    {spent : List (Token P)} {paired : List (AuditableToken P)} :
    ofInputs index action metadata spent = .ok paired ↔
      metadata.senderAuditInfos.length = spent.length ∧
      action.inputs.map ActionInput.token = spent ∧
      List.zipWith (fun token info => ⟨token, none, info⟩) spent metadata.senderAuditInfos =
        paired := by
  simp only [ofInputs, Outcome.guard_bind_eq_ok_iff, ne_eq, not_not]
  refine and_congr_right fun _ => ?_
  generalize found : List.findIdx? _ (spent.zip action.inputs) = place
  rw [← search_eq_none_iff found fun _ => decide_eq_false_iff_not.trans not_not, and_assoc]
  refine and_congr_right fun _ => ?_
  cases place with
  | none => exact ⟨fun made => ⟨rfl, Except.ok.inj made⟩, fun ⟨_, made⟩ => congrArg _ made⟩
  | some i => exact ⟨nofun, nofun⟩

/-- The inputs of a transfer can be paired, and all owners are the ones described, when the inputs are
the spent tokens and metadata tells of their owners. -/
theorem exists_ofInputs_iff {index : Nat} {action : TransferAction P} {metadata : TransferMetadata}
    {spent : List (Token P)} :
    (∃ paired, ofInputs index action metadata spent = .ok paired ∧ ∀ input ∈ paired,
      input.token.isRedeemed = false → input.token.owner.DescribedBy P input.ownerInfo) ↔
    action.inputs.map ActionInput.token = spent ∧
      metadata.senderAuditInfos.length = spent.length ∧
      ∀ (i : Nat) token info, spent[i]? = some token → metadata.senderAuditInfos[i]? = some info →
        token.isRedeemed = false → token.owner.DescribedBy P info := by
  simp only [ofInputs_eq_ok_iff, and_assoc, exists_and_left, exists_eq_left', forall_mem_zipWith]
  exact and_left_comm

theorem exists_ofOutputs_iff {g : Generators P} {action : TransferAction P}
    {metadata : TransferMetadata} :
    (∃ outputs, ofOutputs action metadata = .ok outputs ∧ ∀ output ∈ outputs,
      output.TrueUnder g) ↔
    metadata.outputsMetadata.length = action.outputs.length ∧
      metadata.outputAuditInfos.length = action.outputs.length ∧
      (∀ (i : Nat) output disclosure, action.outputs[i]? = some output →
        metadata.outputsMetadata[i]? = some disclosure → output.OpenedBy g disclosure) ∧
      ∀ (i : Nat) output info, action.outputs[i]? = some output →
        metadata.outputAuditInfos[i]? = some info → output.isRedeemed = false →
        output.owner.DescribedBy P info := by
  simp only [ofOutputs, Outcome.guard_bind_eq_ok_iff, ne_eq, not_or, not_not]
  simp only [and_assoc, exists_and_left, exists_mapM_withPositions_zip_iff,
    List.getElem?_zip_eq_some, exists_ofOutput_iff, Prod.forall, and_imp]
  constructor
  · rintro ⟨disclosures, infos, each⟩
    refine ⟨disclosures.symm, infos.symm, ?_, ?_⟩
    · intro i output disclosure there disclosed
      have bound : i < metadata.outputAuditInfos.length :=
        infos ▸ (List.getElem?_eq_some_iff.mp there).1
      exact (each i output disclosure _ there disclosed (List.getElem?_eq_getElem bound)).1
    · intro i output info there told
      have bound : i < metadata.outputsMetadata.length :=
        disclosures ▸ (List.getElem?_eq_some_iff.mp there).1
      exact (each i output _ info there (List.getElem?_eq_getElem bound) told).2
  · rintro ⟨disclosures, infos, opened, described⟩
    exact ⟨disclosures.symm, infos.symm, fun i output disclosure info there disclosed told =>
      ⟨opened i output disclosure there disclosed, described i output info there told⟩⟩

/-- The inputs and the outputs of a transfer can be paired, and all that is told is true, when metadata
and spent tokens tell all. -/
theorem exists_ofTransfer_iff {g : Generators P} {index : Nat} {bytes : Bytes}
    {metadata : TransferMetadata} {spent : List (Token P)} :
    (∃ paired, ofTransfer index bytes metadata spent = .ok paired ∧
      (∀ output ∈ paired.2, output.TrueUnder g) ∧
      ∀ input ∈ paired.1, input.token.isRedeemed = false →
        input.token.owner.DescribedBy P input.ownerInfo) ↔
    ∃ action : TransferAction P, TransferAction.ofBytes bytes = .ok action ∧
      action.DisclosedBy g metadata spent := by
  simp only [ofTransfer, Outcome.bind_eq_ok_iff, Outcome.inContext_eq_ok_iff]
  constructor
  · rintro ⟨_, ⟨action, read, inputs, isInputs, outputs, isOutputs, ⟨⟩⟩, opened, described⟩
    obtain ⟨spends, senders, sender⟩ := exists_ofInputs_iff.mp ⟨inputs, isInputs, described⟩
    obtain ⟨disclosures, infos, opened, described⟩ :=
      exists_ofOutputs_iff.mp ⟨outputs, isOutputs, opened⟩
    exact ⟨action, read, spends, senders, sender, disclosures, infos, opened, described⟩
  · rintro ⟨action, read, full⟩
    obtain ⟨inputs, isInputs, described⟩ :=
      exists_ofInputs_iff.mpr ⟨full.spends, full.senders, full.sender⟩
    obtain ⟨outputs, isOutputs, opened⟩ := exists_ofOutputs_iff.mpr
      ⟨full.disclosures, full.infos, full.opened, full.described⟩
    exact ⟨(inputs, outputs), ⟨action, read, inputs, isInputs, outputs, isOutputs, rfl⟩, opened,
      described⟩

/-! ## Requests -/

/-- The outputs of issues can be paired, and all that is told is true, when each issue has metadata
that tells all of it. -/
theorem exists_ofIssues_iff {g : Generators P} {issues : List Bytes} {metadata : List IssueMetadata} :
    (∃ paired, ofIssues issues metadata = .ok paired ∧ ∀ outputs ∈ paired, ∀ output ∈ outputs,
      output.TrueUnder g) ↔
    issues.length = metadata.length ∧ ∀ (k : Nat) bytes told, issues[k]? = some bytes →
      metadata[k]? = some told → ∃ action : IssueAction P, IssueAction.ofBytes bytes = .ok action ∧
        action.DisclosedBy g told := by
  unfold ofIssues
  split
  · next differ => exact ⟨fun ⟨_, absurd, _⟩ => (nomatch absurd), fun ⟨same, _⟩ => (differ same).elim⟩
  · next same =>
    rw [exists_mapM_withPositions_zip_iff, and_iff_right (not_not.mp same)]
    simp only [exists_ofIssue_iff]

theorem exists_ofTransfers_iff {g : Generators P} {transfers : List Bytes}
    {metadata : List TransferMetadata} {spent : List (List (Token P))} :
    (∃ paired, ofTransfers transfers metadata spent = .ok paired ∧ ∀ transfer ∈ paired,
      (∀ output ∈ transfer.2, output.TrueUnder g) ∧
      ∀ input ∈ transfer.1, input.token.isRedeemed = false →
        input.token.owner.DescribedBy P input.ownerInfo) ↔
    transfers.length = metadata.length ∧ spent.length = metadata.length ∧
      ∀ (k : Nat) bytes told tokens, transfers[k]? = some bytes → metadata[k]? = some told →
        spent[k]? = some tokens → ∃ action : TransferAction P,
          TransferAction.ofBytes bytes = .ok action ∧ action.DisclosedBy g told tokens := by
  unfold ofTransfers
  split
  · next differ => exact ⟨fun ⟨_, absurd, _⟩ => (nomatch absurd), fun ⟨same, _⟩ => (differ same).elim⟩
  · next same =>
    rw [and_iff_right (not_not.mp same)]
    split
    · next differ =>
      exact ⟨fun ⟨_, absurd, _⟩ => (nomatch absurd), fun ⟨same, _⟩ => (differ same).elim⟩
    · next same =>
      rw [exists_mapM_withPositions_zip_iff, and_iff_right (not_not.mp same)]
      simp only [exists_ofTransfer_iff, Prod.forall, List.getElem?_zip_eq_some, and_imp]

end AuditableToken

namespace Auditor

theorem inspect_eq_ok_iff {auditor : Auditor P} {request : TokenRequest}
    {metadata : RequestMetadata} {spent : List (List (Token P))} {txId : String} :
    auditor.inspect request metadata spent txId = .ok () ↔
      request.DisclosedBy auditor.parameters.generators metadata spent := by
  simp only [inspect, Outcome.bind_eq_ok_iff, Outcome.inContext_eq_ok_iff, Unique.exists_iff,
    PUnit.default_eq_unit, Outcome.forM_eq_ok_iff, inspectOutputs_eq_ok_iff,
    inspectInputs_eq_ok_iff]
  constructor
  · rintro ⟨issued, isIssued, issuedTrue, transferred, isTransferred, outputsTrue, inputsTrue⟩
    obtain ⟨issues, issue⟩ := AuditableToken.exists_ofIssues_iff.mp
      ⟨issued, isIssued, (forall_mem_withPositions issued).mp issuedTrue⟩
    have both := fun entry listed => And.intro (outputsTrue entry listed) (inputsTrue entry listed)
    obtain ⟨transfers, spends, transfer⟩ := AuditableToken.exists_ofTransfers_iff.mp
      ⟨transferred, isTransferred, (forall_mem_withPositions transferred).mp both⟩
    exact ⟨issues, transfers, spends, issue, transfer⟩
  · intro full
    obtain ⟨issued, isIssued, issuedTrue⟩ :=
      AuditableToken.exists_ofIssues_iff.mpr ⟨full.issues, full.issue⟩
    obtain ⟨transferred, isTransferred, both⟩ := AuditableToken.exists_ofTransfers_iff.mpr
      ⟨full.transfers, full.spends, full.transfer⟩
    have both := (forall_mem_withPositions transferred).mpr both
    exact ⟨issued, isIssued, (forall_mem_withPositions issued).mpr issuedTrue, transferred,
      isTransferred, fun entry listed => (both entry listed).1,
      fun entry listed => (both entry listed).2⟩

/-- What is reported changes nothing about what is found. -/
theorem check_eq_ok_iff_inspect {auditor : Auditor P} {request : TokenRequest}
    {metadata : RequestMetadata} {spent : List (List (Token P))} {txId : String}
    {log : List LogRecord} :
    ((auditor.check request metadata spent txId).perform log).1 = .ok () ↔
      auditor.inspect request metadata spent txId = .ok () := by
  rw [Task.fst_perform_eq_ok_iff]
  simp only [check, Task.perform_bind, Task.perform_debug, Task.perform_lift, Unique.exists_iff,
    PUnit.default_eq_unit, exists_eq_left', and_assoc, exists_and_left]
  exact and_iff_left ⟨_, rfl⟩

/-- The check of a request succeeds exactly when metadata and spent tokens tell all of it, and tell it
truly, under the generators of the auditor's parameters. -/
theorem check_iff_disclosedBy (auditor : Auditor P) (request : TokenRequest)
    (metadata : RequestMetadata) (spent : List (List (Token P))) (txId : String)
    (log : List LogRecord) :
    ((auditor.check request metadata spent txId).perform log).1 = .ok () ↔
      request.DisclosedBy auditor.parameters.generators metadata spent :=
  check_eq_ok_iff_inspect.trans inspect_eq_ok_iff

end Auditor

end ConfidentialToken
