import ConfidentialToken.Assembly
import ConfidentialToken.Proofs.Audit.Acceptance
import ConfidentialToken.Proofs.Ledger.Consistent
import ConfidentialToken.Proofs.Wire.Types
import ConfidentialToken.Proofs.ZeroKnowledge.Provers

/-!
# Assembled actions

What issuers and senders assemble, an action and its metadata, is stated here field by field, with all
that was checked on the way. From this it follows that the action breaks no rule and that the metadata
tells all of it. What the builders do not look at is left to who calls them: whether the issuer is
authorized, whether the audit infos are true, and whether the tokens to spend are on the ledger.
-/

namespace ConfidentialToken

open Wire.Codec

/-! ## Outputs -/

section

variable {P : Type}

/-- Outputs come from commitments and owners that are equally many, each from one of both. -/
theorem outputsOf_eq_ok_iff {commitments : List (Commitment P)} {owners : List Identity}
    {outputs : List (Token P)} :
    outputsOf commitments owners = .ok outputs ↔
      outputs.map Token.owner = owners ∧ outputs.map Token.data = commitments := by
  unfold outputsOf
  split
  · next same =>
    constructor
    · intro made
      cases made
      rw [List.map_zipWith, List.map_zipWith]
      exact ⟨(List.map_zip_eq_zipWith (f := Prod.fst)).symm.trans (List.map_fst_zip same.ge),
        (List.map_zip_eq_zipWith (f := Prod.snd)).symm.trans (List.map_snd_zip same.le)⟩
    · rintro ⟨rfl, rfl⟩
      rw [List.zipWith_map_left, List.zipWith_map_right, List.zipWith_self, List.map_id']
  · next differ =>
    refine ⟨nofun, ?_⟩
    rintro ⟨rfl, rfl⟩
    exact absurd (by rw [List.length_map, List.length_map]) differ

/-- Recipients pass their check when there are some, not too many, with values in range. -/
theorem Recipient.check_eq_ok_iff {pp : PublicParameters P} {recipients : List Recipient} :
    check pp recipients = .ok () ↔ (recipients ≠ [] ∧ recipients.length ≤ maxOutputs) ∧
      ∀ recipient ∈ recipients, recipient.value ≤ pp.maxValue := by
  have inRange : recipients.findIdx? (fun recipient => decide (pp.maxValue < recipient.value)) =
      none ↔ ∀ recipient ∈ recipients, recipient.value ≤ pp.maxValue := by
    simp [List.findIdx?_eq_none_iff]
  simp only [check, Outcome.guard_bind_eq_ok_iff, List.isEmpty_iff, Nat.not_lt, and_assoc]
  rw [← inRange]
  refine and_congr_right fun _ => and_congr_right fun _ => ?_
  cases recipients.findIdx? fun recipient => decide (pp.maxValue < recipient.value) with
  | none => exact ⟨fun _ => rfl, fun _ => rfl⟩
  | some i => exact ⟨nofun, nofun⟩

theorem Recipient.length_openings (tokenType : String) (recipients : List Recipient)
    (draws : Draws) : (openings tokenType recipients draws).length = recipients.length := by
  simp [openings, Draws.take]

theorem Recipient.tokenType_of_mem_openings {tokenType : String} {recipients : List Recipient}
    {draws : Draws} {opening : Opening} (mem : opening ∈ openings tokenType recipients draws) :
    opening.tokenType = tokenType :=
  (forall_mem_zipWith (Q := fun opening : Opening => opening.tokenType = tokenType)).mpr
    (fun _ _ _ _ _ => rfl) opening mem

theorem Recipient.total_openings (tokenType : String) (recipients : List Recipient) (draws : Draws) :
    Opening.total (openings tokenType recipients draws) = total recipients := by
  have each : ∀ blindings : List Scalar, blindings.length = recipients.length →
      Opening.total (List.zipWith (fun recipient blinding => ⟨tokenType, recipient.value, blinding⟩)
        recipients blindings) = total recipients := by
    induction recipients with
    | nil => exact fun _ _ => rfl
    | cons recipient rest ih =>
      intro blindings paired
      cases blindings with
      | nil => cases paired
      | cons blinding blindings => exact congrArg _ (ih blindings (Nat.succ.inj paired))
  exact each _ (by simp [Draws.take])

/-- The openings of recipients are witnesses for the tokens that they commit to. -/
theorem Recipient.witnesses_openings [PointGroup P] {pp : PublicParameters P} (made : pp.Made)
    {tokenType : String} (named : tokenType ≠ "") {recipients : List Recipient}
    (some : recipients ≠ []) (inRange : ∀ recipient ∈ recipients, recipient.value ≤ pp.maxValue)
    (draws : Draws) :
    Witnesses pp (openings tokenType recipients draws)
      ((openings tokenType recipients draws).map (·.commitment pp.generators)) tokenType := by
  refine .of_commitment ?_ named (fun _ => tokenType_of_mem_openings) ?_
  · intro none
    have length := length_openings tokenType recipients draws
    rw [none] at length
    exact some (List.length_eq_zero_iff.mp length.symm)
  · refine (forall_mem_zipWith (Q := fun opening : Opening => opening.value.toNat < _)).mpr ?_
    intro i recipient _ there _
    exact (made.lt_iff_le_maxValue _).mpr (inRange recipient (List.mem_of_getElem? there))

/-- Disclosures are written for openings one by one, each within the size limit. -/
theorem Disclosure.writeAll_eq_ok_iff {openings : List Opening} {issuer : Option Identity}
    {written : List Bytes} :
    writeAll openings issuer = .ok written ↔ List.Forall₂ (fun opening bytes =>
      toBytes ⟨opening, issuer⟩ = bytes ∧ bytes.length ≤ Wire.sizeLimit) openings written := by
  unfold writeAll
  rw [Outcome.mapM_eq_ok_iff]
  simp only [write_eq_ok_iff]
  rfl

theorem Disclosure.exists_writeAll_iff {openings : List Opening} {issuer : Option Identity} :
    (∃ written, writeAll openings issuer = .ok written) ↔
      ∀ opening ∈ openings, (toBytes ⟨opening, issuer⟩).length ≤ Wire.sizeLimit := by
  let write opening := codec.write ⟨opening, issuer⟩
  have all : (∃ written, openings.mapM write = .ok written ∧ ∀ bytes ∈ written, True) ↔ _ :=
    Outcome.exists_mapM_eq_ok_iff
  simp only [write, write_eq_ok_iff, implies_true, and_true, exists_eq_left'] at all
  exact all

/-- What is told about outputs that are made for recipients: owners and commitments are those of the
recipients and of the openings, and the disclosures tell the openings. -/
structure TellsOutputs [PointGroup P] (g : Generators P) (recipients : List Recipient)
    (openings : List Opening) (issuer : Option Identity) (outputs : List (Token P))
    (disclosures : List Bytes) : Prop where
  owners : outputs.map Token.owner = recipients.map Recipient.owner
  commitments : outputs.map Token.data = openings.map (·.commitment g)
  disclosed : Disclosure.writeAll openings issuer = .ok disclosures

end

section

variable {P : Type} [PointGroup P] {g : Generators P} {recipients : List Recipient}
  {openings : List Opening} {issuer : Option Identity} {outputs : List (Token P)}
  {disclosures : List Bytes}

/-- There are outputs with their disclosures where the openings can be disclosed. -/
theorem exists_tellsOutputs_iff (paired : openings.length = recipients.length) :
    (∃ outputs disclosures, TellsOutputs g recipients openings issuer outputs disclosures) ↔
      ∀ opening ∈ openings, (Disclosure.toBytes ⟨opening, issuer⟩).length ≤ Wire.sizeLimit := by
  rw [← Disclosure.exists_writeAll_iff]
  constructor
  · rintro ⟨_, disclosures, -, -, disclosed⟩
    exact ⟨disclosures, disclosed⟩
  · rintro ⟨disclosures, disclosed⟩
    have lengths : (openings.map (·.commitment g)).length = (recipients.map (·.owner)).length := by
      rw [List.length_map, List.length_map, paired]
    obtain ⟨owners, commitments⟩ := outputsOf_eq_ok_iff.mp (if_pos lengths)
    exact ⟨_, disclosures, owners, commitments, disclosed⟩

namespace TellsOutputs

theorem length_outputs
    (tells : TellsOutputs g recipients openings issuer outputs disclosures) :
    outputs.length = recipients.length := by
  simpa only [List.length_map] using congrArg List.length tells.owners

theorem length_disclosures
    (tells : TellsOutputs g recipients openings issuer outputs disclosures) :
    disclosures.length = outputs.length := by
  have opened : outputs.length = openings.length := by
    simpa only [List.length_map] using congrArg List.length tells.commitments
  rw [opened, (Disclosure.writeAll_eq_ok_iff.mp tells.disclosed).length_eq]

/-- Where recipients are some and not too many, so are the outputs. -/
theorem count (tells : TellsOutputs g recipients openings issuer outputs disclosures)
    (few : recipients ≠ [] ∧ recipients.length ≤ maxOutputs) :
    outputs ≠ [] ∧ outputs.length ≤ maxOutputs := by
  have length := tells.length_outputs
  constructor
  · intro none
    rw [none] at length
    exact few.1 (List.length_eq_zero_iff.mp length.symm)
  · exact length ▸ few.2

/-- What holds of the owners that recipients name holds of the owners of the outputs. -/
theorem forall_owner (tells : TellsOutputs g recipients openings issuer outputs disclosures)
    {Q : Identity → Prop} (each : ∀ recipient ∈ recipients, Q recipient.owner) :
    ∀ output ∈ outputs, Q output.owner := by
  rw [← List.forall_mem_map (f := Token.owner), tells.owners, List.forall_mem_map]
  exact each

/-- The audit info in the place of an output is about its owner. -/
theorem of_info (tells : TellsOutputs g recipients openings issuer outputs disclosures)
    {Q : Identity → Bytes → Prop} (each : ∀ recipient ∈ recipients, Q recipient.owner recipient.auditInfo)
    {i : Nat} {output : Token P} {info : Bytes} (there : outputs[i]? = some output)
    (told : (recipients.map Recipient.auditInfo)[i]? = some info) : Q output.owner info := by
  rw [List.getElem?_map] at told
  obtain ⟨recipient, listed, rfl⟩ := Option.map_eq_some_iff.mp told
  have same := congrArg (·[i]?) tells.owners
  simp only [List.getElem?_map, there, listed, Option.map_some, Option.some.injEq] at same
  rw [same]
  exact each recipient (List.mem_of_getElem? listed)

/-- Outputs for recipients whose identities are short are short. -/
theorem length_encode_le (tells : TellsOutputs g recipients openings issuer outputs disclosures)
    {bound : Nat} (short : ∀ recipient ∈ recipients, recipient.owner.bytes.length ≤ bound) :
    (Token.codec.list.encode outputs).length ≤ 8 + recipients.length * (bound + 40) := by
  have each : (outputs.flatMap Token.codec.encode).length ≤ outputs.length * (bound + 40) := by
    refine length_flatMap_le fun output mem => ?_
    have owner : output.owner.bytes.length ≤ bound :=
      tells.forall_owner (Q := fun owner => owner.bytes.length ≤ bound) short output mem
    have token := output.length_toBytes
    show output.toBytes.length ≤ _
    omega
  rw [tells.length_outputs] at each
  rw [length_encode_list]
  omega

/-- The disclosure in the place of an output tells the opening in its place, which is one of the output. -/
theorem exists_opening (tells : TellsOutputs g recipients openings issuer outputs disclosures) {i : Nat}
    {output : Token P} {disclosure : Bytes} (there : outputs[i]? = some output)
    (disclosed : disclosures[i]? = some disclosure) :
    ∃ opening, openings[i]? = some opening ∧ Disclosure.ofBytes disclosure = .ok ⟨opening, issuer⟩ ∧
      opening.commitment g = output.data := by
  obtain ⟨opening, opens, written, short⟩ :=
    exists_getElem?_of_forall₂ (Disclosure.writeAll_eq_ok_iff.mp tells.disclosed) disclosed
  have committed := congrArg (·[i]?) tells.commitments
  simp only [List.getElem?_map, there, opens, Option.map_some, Option.some.injEq] at committed
  have read : Disclosure.ofBytes disclosure = .ok ⟨opening, issuer⟩ := by
    subst written
    exact Outcome.inContext_eq_ok_iff.mpr
      (Disclosure.faithful.roundTrips (lt_lengthBound short)).read_encode
  exact ⟨opening, opens, read, committed.symm⟩

/-- The disclosure in the place of an output opens it. -/
theorem openedBy (tells : TellsOutputs g recipients openings issuer outputs disclosures) {i : Nat}
    {output : Token P} {disclosure : Bytes} (there : outputs[i]? = some output)
    (disclosed : disclosures[i]? = some disclosure) : output.OpenedBy g disclosure := by
  obtain ⟨_, -, read, committed⟩ := tells.exists_opening there disclosed
  exact ⟨_, read, committed⟩

end TellsOutputs

end

/-! ## Issues -/

section

variable {P : Type} [Suite P] {pp : PublicParameters P} {issuer : Identity} {tokenType : String}
  {recipients : List Recipient} {draws : Draws} {action : IssueAction P} {metadata : IssueMetadata}

/-- What an issuer assembles: what was checked, and the fields of action and metadata. -/
structure IssueAction.Assembled (pp : PublicParameters P) (issuer : Identity) (tokenType : String)
    (recipients : List Recipient) (draws : Draws) (action : IssueAction P)
    (metadata : IssueMetadata) : Prop where
  named : tokenType ≠ ""
  owned : ∀ recipient ∈ recipients, recipient.owner.isNone = false
  count : recipients ≠ [] ∧ recipients.length ≤ maxOutputs
  inRange : ∀ recipient ∈ recipients, recipient.value ≤ pp.maxValue
  proved : IssueProof.prove pp (Recipient.openings tokenType recipients draws)
    ((Recipient.openings tokenType recipients draws).map (·.commitment pp.generators))
    (draws.skip recipients.length) = .ok action.proof
  tells : TellsOutputs pp.generators recipients (Recipient.openings tokenType recipients draws)
    (some issuer) action.outputs metadata.outputsMetadata
  action_eq : action = ⟨issuer, action.outputs, action.proof, .empty⟩
  metadata_eq : metadata = {
    issuer, tokenIds := [], outputsMetadata := metadata.outputsMetadata
    receivers := recipients.map (·.owner), receiverAuditInfos := recipients.map (·.auditInfo)
    extraSigners := [] }

omit [Suite P] in
theorem IssueAction.ofParts_eq_ok_iff {commitments : List (Commitment P)} {owners : List Identity}
    {proof : Bytes} :
    ofParts issuer commitments owners proof = .ok action ↔
      action = ⟨issuer, action.outputs, proof, .empty⟩ ∧ action.outputs.map Token.owner = owners ∧
        action.outputs.map Token.data = commitments := by
  simp only [ofParts, Outcome.bind_eq_ok_iff, outputsOf_eq_ok_iff]
  constructor
  · rintro ⟨outputs, both, ⟨⟩⟩
    exact ⟨rfl, both⟩
  · rintro ⟨actionEq, both⟩
    exact ⟨action.outputs, both, congrArg Except.ok actionEq.symm⟩

theorem IssueAction.assemble_eq_ok_iff :
    assemble pp issuer tokenType recipients draws = .ok (action, metadata) ↔
      Assembled pp issuer tokenType recipients draws action metadata := by
  simp only [assemble, Outcome.guard_bind_eq_ok_iff, Outcome.check_bind_eq_ok_iff,
    Recipient.check_eq_ok_iff, List.any_eq_true, not_exists, not_and, Bool.not_eq_true]
  simp only [Outcome.bind_eq_ok_iff, Outcome.inContext_eq_ok_iff, ofParts_eq_ok_iff]
  constructor
  · rintro ⟨named, owned, ⟨count, inRange⟩, proof, proved, _, ⟨actionEq, owners, commitments⟩,
      disclosures, disclosed, ⟨⟩⟩
    obtain rfl : action.proof = proof := congrArg IssueAction.proof actionEq
    exact ⟨named, owned, count, inRange, proved, ⟨owners, commitments, disclosed⟩, actionEq, rfl⟩
  · rintro ⟨named, owned, count, inRange, proved, tells, actionEq, metadataEq⟩
    refine ⟨named, owned, ⟨count, inRange⟩, action.proof, proved, action,
      ⟨actionEq, tells.owners, tells.commitments⟩, metadata.outputsMetadata, tells.disclosed, ?_⟩
    exact congrArg (fun told => Except.ok (action, told)) metadataEq.symm

/-- An issue is assembled exactly when its type has a name, there are recipients, not too many and all of
them somebody, with values in range, and the openings can be disclosed. -/
theorem IssueAction.exists_assemble_iff [PointGroup.Linear P] (made : pp.Made)
    (reliable : IssueProof.RangesReliable pp (Recipient.openings tokenType recipients draws)
      ((Recipient.openings tokenType recipients draws).map (·.commitment pp.generators))
      (draws.skip recipients.length)) :
    (∃ action metadata, assemble pp issuer tokenType recipients draws = .ok (action, metadata)) ↔
      tokenType ≠ "" ∧ (∀ recipient ∈ recipients, recipient.owner.isNone = false) ∧
      (recipients ≠ [] ∧ recipients.length ≤ maxOutputs) ∧
      (∀ recipient ∈ recipients, recipient.value ≤ pp.maxValue) ∧
      ∀ opening ∈ Recipient.openings tokenType recipients draws,
        (Disclosure.toBytes ⟨opening, some issuer⟩).length ≤ Wire.sizeLimit := by
  have paired := Recipient.length_openings tokenType recipients draws
  simp only [assemble_eq_ok_iff]
  constructor
  · rintro ⟨action, metadata, assembled⟩
    exact ⟨assembled.named, assembled.owned, assembled.count, assembled.inRange,
      (exists_tellsOutputs_iff paired).mp ⟨_, _, assembled.tells⟩⟩
  · rintro ⟨named, owned, count, inRange, short⟩
    obtain ⟨outputs, disclosures, tells⟩ :=
      (exists_tellsOutputs_iff (g := pp.generators) paired).mpr short
    have witnesses := Recipient.witnesses_openings made named count.1 inRange draws
    have few : ((Recipient.openings tokenType recipients draws).map
        (·.commitment pp.generators)).length ≤ 16384 := by
      rw [List.length_map, paired]
      exact count.2.trans (by decide)
    obtain ⟨proof, proved⟩ := (IssueProof.exists_prove_iff_of_few few made.bitLength_mem
      reliable).mpr ⟨tokenType, witnesses⟩
    exact ⟨⟨issuer, outputs, proof, .empty⟩, ⟨issuer, [], disclosures, recipients.map (·.owner),
      recipients.map (·.auditInfo), []⟩, named, owned, count, inRange, proved, tells, rfl, rfl⟩

namespace IssueAction.Assembled

variable (assembled : Assembled pp issuer tokenType recipients draws action metadata)
include assembled

theorem issuer_eq : action.issuer = issuer := congrArg IssueAction.issuer assembled.action_eq

theorem owned_output : ∀ output ∈ action.outputs, output.owner.isNone = false :=
  assembled.tells.forall_owner (Q := fun owner => owner.isNone = false) assembled.owned

theorem check_eq_ok (named : issuer.isNone = false) : action.check = .ok () :=
  IssueAction.check_eq_ok_iff.mpr ⟨assembled.issuer_eq ▸ named,
    assembled.tells.count assembled.count, assembled.owned_output⟩

/-- An assembled issue is short where the identities in it are. -/
theorem length_toBytes_le (bound : Nat)
    (short : ∀ recipient ∈ recipients, recipient.owner.bytes.length ≤ bound) :
    action.toBytes.length ≤ 168 + issuer.bytes.length +
      (recipients.length * (bound + 40) + recipients.length * (8 + 71 * 32)) := by
  have parts : action.toBytes.length = (Identity.codec.encode action.issuer).length +
      ((Token.codec.list.encode action.outputs).length + ((bytes.encode action.proof).length +
        (map.encode action.metadata).length)) := by
    show List.length (_ ++ (_ ++ (_ ++ _))) = _
    simp only [List.length_append]
  have outputs := assembled.tells.length_encode_le short
  have proof := IssueProof.length_le_of_prove assembled.proved
  have noMetadata : (map.encode action.metadata).length = 8 := by
    rw [assembled.action_eq]
    rfl
  rw [List.length_map, Recipient.length_openings] at proof
  rw [parts, assembled.issuer_eq, Identity.length_encode, length_encode_bytes, noMetadata]
  omega

/-- An assembled issue breaks no rule, if its issuer is authorized. The range prover is relied on, and
the type commitment that is drawn is not neutral. -/
theorem valid [PointGroup.Linear P] [PointGroup.LawfulEncoding P] (made : pp.Made)
    (named : issuer.isNone = false) (authorized : Rule.authorize pp issuer = .ok ())
    (reliable : IssueProof.RangesReliable pp (Recipient.openings tokenType recipients draws)
      ((Recipient.openings tokenType recipients draws).map (·.commitment pp.generators))
      (draws.skip recipients.length))
    (proper : (pp.generators.commitType tokenType (draws recipients.length)).isIdentity = false) :
    action.Valid pp where
  wellFormed := assembled.check_eq_ok named
  authorized := assembled.issuer_eq ▸ authorized
  proved := by
    have commitments : action.commitments = _ := assembled.tells.commitments
    rw [commitments]
    refine IssueProof.verify_of_prove made.bitLength_mem reliable assembled.proved ?_
    intro witnessed witnesses
    -- the witnesses have the type of the openings, of which there are some
    obtain ⟨opening, rest, openings⟩ := List.exists_cons_of_ne_nil witnesses.some
    have listed : opening ∈ Recipient.openings tokenType recipients draws :=
      openings ▸ List.mem_cons_self
    rw [← witnesses.typed opening listed, Recipient.tokenType_of_mem_openings listed]
    exact proper

/-- The metadata of an assembled issue tells all of it, if the audit infos are true. -/
theorem disclosedBy [PointGroup.LawfulEncoding P]
    (described : ∀ recipient ∈ recipients, recipient.owner.DescribedBy P recipient.auditInfo) :
    action.DisclosedBy pp.generators metadata := by
  have infos : metadata.receiverAuditInfos = recipients.map Recipient.auditInfo :=
    congrArg IssueMetadata.receiverAuditInfos assembled.metadata_eq
  refine ⟨assembled.tells.length_disclosures, ?_, assembled.owned_output,
    fun _ _ _ => assembled.tells.openedBy, ?_⟩
  · rw [infos, List.length_map, assembled.tells.length_outputs]
  · intro i output info there told
    rw [infos] at told
    exact assembled.tells.of_info (Q := Identity.DescribedBy P) described there told

end IssueAction.Assembled

end

/-! ## Transfers -/

section

variable {P : Type} [Suite P] {pp : PublicParameters P} {inputs : List (OwnedToken P)}
  {tokenType : String} {recipients : List Recipient} {draws : Draws} {action : TransferAction P}
  {metadata : TransferMetadata}

/-- The tokens of a sender pass their check when each has the type and opens as its holder says. -/
theorem OwnedToken.checkFrom_eq_ok_iff {g : Generators P} {index : Nat} :
    checkFrom g tokenType index inputs = .ok () ↔ ∀ owned ∈ inputs,
      owned.opening.tokenType = tokenType ∧ owned.opening.opens owned.token.data g = true := by
  induction inputs generalizing index with
  | nil => exact ⟨fun _ => nofun, fun _ => rfl⟩
  | cons owned rest ih =>
    unfold checkFrom
    rw [List.forall_mem_cons, ← @ih (index + 1)]
    by_cases typed : owned.opening.tokenType = tokenType
    · cases opens : owned.opening.opens owned.token.data g with
      | true => simp [typed]
      | false => simp [typed]
    · simp [typed]

omit [Suite P] in
theorem TransferAction.ofParts_eq_ok_iff {commitments : List (Commitment P)} {owners : List Identity}
    {proof : Bytes} :
    ofParts (inputs.map (·.id)) (inputs.map (·.token)) commitments owners proof = .ok action ↔
      action = ⟨inputs.map fun owned => ⟨owned.id, owned.token⟩, action.outputs, proof, .empty, []⟩ ∧
        action.outputs.map Token.owner = owners ∧ action.outputs.map Token.data = commitments := by
  have paired : List.zipWith ActionInput.mk (inputs.map (·.id)) (inputs.map (·.token)) =
      inputs.map fun owned => ⟨owned.id, owned.token⟩ := by
    rw [List.zipWith_map, List.zipWith_self]
  simp only [ofParts, Outcome.guard_bind_eq_ok_iff, Outcome.bind_eq_ok_iff, outputsOf_eq_ok_iff,
    List.length_map, ne_eq, not_true_eq_false, not_false_eq_true, true_and, paired]
  constructor
  · rintro ⟨outputs, both, ⟨⟩⟩
    exact ⟨rfl, both⟩
  · rintro ⟨actionEq, both⟩
    exact ⟨action.outputs, both, congrArg Except.ok actionEq.symm⟩

/-- What a sender assembles: what was checked, and the fields of action and metadata. -/
structure TransferAction.Assembled (pp : PublicParameters P) (inputs : List (OwnedToken P))
    (recipients : List Recipient) (draws : Draws) (tokenType : String) (action : TransferAction P)
    (metadata : TransferMetadata) : Prop where
  some : inputs ≠ []
  opened : ∀ owned ∈ inputs, owned.opening.tokenType = tokenType ∧
    owned.opening.opens owned.token.data pp.generators = true
  balanced : Opening.total (inputs.map (·.opening)) = Recipient.total recipients
  count : recipients ≠ [] ∧ recipients.length ≤ maxOutputs
  inRange : ∀ recipient ∈ recipients, recipient.value ≤ pp.maxValue
  proved : TransferProof.prove pp (inputs.map (·.opening)) (inputs.map (·.token.data))
    (Recipient.openings tokenType recipients draws)
    ((Recipient.openings tokenType recipients draws).map (·.commitment pp.generators))
    (draws.skip recipients.length) = .ok action.proof
  tells : TellsOutputs pp.generators recipients (Recipient.openings tokenType recipients draws)
    none action.outputs metadata.outputsMetadata
  action_eq : action = ⟨inputs.map fun owned => ⟨owned.id, owned.token⟩, action.outputs,
    action.proof, .empty, []⟩
  metadata_eq : metadata = {
    tokenIds := inputs.map (·.id), senders := inputs.map (·.token.owner)
    senderAuditInfos := inputs.map (·.auditInfo), outputsMetadata := metadata.outputsMetadata
    outputAuditInfos := recipients.map (·.auditInfo), receivers := recipients.map (·.owner)
    receiverAuditInfos := recipients.map (·.auditInfo), extraSigners := [] }

theorem TransferAction.assemble_eq_ok_iff :
    assemble pp inputs recipients draws = .ok (action, metadata) ↔
      ∃ tokenType, Assembled pp inputs recipients draws tokenType action metadata := by
  cases inputs with
  | nil =>
    constructor
    · intro made
      simp [assemble] at made
    · rintro ⟨_, assembled⟩
      exact absurd rfl assembled.some
  | cons first rest =>
    simp only [assemble, Outcome.guard_bind_eq_ok_iff, Outcome.check_bind_eq_ok_iff,
      OwnedToken.checkFrom_eq_ok_iff, Recipient.check_eq_ok_iff, not_not]
    simp only [Outcome.bind_eq_ok_iff, Outcome.inContext_eq_ok_iff, ofParts_eq_ok_iff]
    constructor
    · rintro ⟨opened, balanced, ⟨count, inRange⟩, proof, proved, _, ⟨actionEq, owners, commitments⟩,
        disclosures, disclosed, ⟨⟩⟩
      obtain rfl : action.proof = proof := congrArg TransferAction.proof actionEq
      exact ⟨first.opening.tokenType, List.cons_ne_nil _ _, opened, balanced, count, inRange, proved,
        ⟨owners, commitments, disclosed⟩, actionEq, rfl⟩
    · rintro ⟨tokenType, _, opened, balanced, count, inRange, proved, tells, actionEq, metadataEq⟩
      obtain rfl := (opened first List.mem_cons_self).1
      refine ⟨opened, balanced, ⟨count, inRange⟩, action.proof, proved, action,
        ⟨actionEq, tells.owners, tells.commitments⟩, metadata.outputsMetadata, tells.disclosed, ?_⟩
      exact congrArg (fun told => Except.ok (action, told)) metadataEq.symm

/-- A transfer of at most 256 tokens is assembled exactly when there are some, all of one type that has a
name, each in range and open as its holder says, the values balance, there are recipients, not too many,
with values in range, and the openings can be disclosed. -/
theorem TransferAction.exists_assemble_iff [PointGroup.Linear P] (made : pp.Made)
    (few : inputs.length ≤ maxOutputs)
    (reliable : ∀ tokenType, TransferProof.RangesReliable pp (inputs.map (·.opening))
      (inputs.map (·.token.data)) (Recipient.openings tokenType recipients draws)
      ((Recipient.openings tokenType recipients draws).map (·.commitment pp.generators))
      (draws.skip recipients.length)) :
    (∃ action metadata, assemble pp inputs recipients draws = .ok (action, metadata)) ↔
      inputs ≠ [] ∧ ∃ tokenType, tokenType ≠ "" ∧
        (∀ owned ∈ inputs, owned.opening.tokenType = tokenType ∧
          owned.opening.opens owned.token.data pp.generators = true ∧
          owned.opening.value ≤ pp.maxValue) ∧
        Opening.total (inputs.map (·.opening)) = Recipient.total recipients ∧
        (recipients ≠ [] ∧ recipients.length ≤ maxOutputs) ∧
        (∀ recipient ∈ recipients, recipient.value ≤ pp.maxValue) ∧
        ∀ opening ∈ Recipient.openings tokenType recipients draws,
          (Disclosure.toBytes ⟨opening, none⟩).length ≤ Wire.sizeLimit := by
  have within (tokenType : String) (count : recipients.length ≤ maxOutputs) :
      (inputs.map (·.token.data)).length + ((Recipient.openings tokenType recipients
        draws).map (·.commitment pp.generators)).length ≤ 16384 := by
    rw [List.length_map, List.length_map, Recipient.length_openings]
    exact (Nat.add_le_add few count).trans (by decide)
  have provable (tokenType : String) (count : recipients.length ≤ maxOutputs) :=
    TransferProof.exists_prove_iff_of_few (within tokenType count) made.bitLength_mem
      (reliable tokenType)
  simp only [assemble_eq_ok_iff]
  constructor
  · rintro ⟨action, metadata, tokenType, assembled⟩
    have paired := Recipient.length_openings tokenType recipients draws
    obtain ⟨witnessed, spent, -⟩ :=
      (provable tokenType assembled.count.2).mp ⟨_, assembled.proved⟩
    -- the prover looks at the type of the inputs, which is the one that was checked
    obtain rfl : witnessed = tokenType := by
      obtain ⟨first, rest, listed⟩ := List.exists_cons_of_ne_nil assembled.some
      have mem : first ∈ inputs := listed ▸ List.mem_cons_self
      exact (spent.typed _ (List.mem_map_of_mem mem)).symm.trans (assembled.opened first mem).1
    refine ⟨assembled.some, witnessed, spent.named, ?_, assembled.balanced, assembled.count,
      assembled.inRange, (exists_tellsOutputs_iff paired).mp ⟨_, _, assembled.tells⟩⟩
    intro owned mem
    obtain ⟨typed, opens⟩ := assembled.opened owned mem
    exact ⟨typed, opens,
      (made.lt_iff_le_maxValue _).mp (spent.inRange _ (List.mem_map_of_mem mem))⟩
  · rintro ⟨some, tokenType, named, opened, balanced, count, inRange, short⟩
    have paired := Recipient.length_openings tokenType recipients draws
    obtain ⟨outputs, disclosures, tells⟩ :=
      (exists_tellsOutputs_iff (g := pp.generators) paired).mpr short
    have gained := Recipient.witnesses_openings made named count.1 inRange draws
    have spent : Witnesses pp (inputs.map (·.opening)) (inputs.map (·.token.data)) tokenType := by
      refine ⟨mt List.map_eq_nil_iff.mp some, named, List.forall_mem_map.mpr fun owned mem =>
        (opened owned mem).1, List.forall_mem_map.mpr fun owned mem =>
        (made.lt_iff_le_maxValue _).mpr (opened owned mem).2.2, ?_⟩
      rw [List.forall₂_map_left_iff, List.forall₂_map_right_iff, List.forall₂_same]
      exact fun owned mem => (opened owned mem).2.1
    have equal : Opening.total (inputs.map (·.opening)) =
        Opening.total (Recipient.openings tokenType recipients draws) :=
      balanced.trans (Recipient.total_openings tokenType recipients draws).symm
    obtain ⟨proof, proved⟩ :=
      (provable tokenType count.2).mpr ⟨tokenType, spent, gained, equal⟩
    exact ⟨⟨inputs.map fun owned => ⟨owned.id, owned.token⟩, outputs, proof, .empty, []⟩,
      ⟨inputs.map (·.id), inputs.map (·.token.owner), inputs.map (·.auditInfo), disclosures,
        recipients.map (·.auditInfo), recipients.map (·.owner), recipients.map (·.auditInfo), []⟩,
      tokenType, some, fun owned mem => ⟨(opened owned mem).1, (opened owned mem).2.1⟩, balanced,
      count, inRange, proved, tells, rfl, rfl⟩

/-- A token that its holder can spend by itself: it is on the ledger under its id, a plain party owns
it, and the audit info describes the party. -/
structure OwnedToken.Spendable (ledger : Ledger) (owned : OwnedToken P) : Prop where
  read : ledger.token? owned.id = some owned.token
  plain : Script.isScript owned.token.owner = false
  described : owned.token.owner.DescribedBy P owned.auditInfo

/-- A token that is read from a ledger is stored there as it is written. -/
theorem Ledger.state?_of_token? [PointGroup.LawfulEncoding P] {ledger : Ledger} {id : TokenId}
    {token : Token P} (read : ledger.token? id = some token) :
    ledger.state? id = some token.toBytes := by
  obtain ⟨bytes, stored, read⟩ := Option.bind_eq_some_iff.mp read
  cases outcome : Token.ofBytes (P := P) bytes with
  | error e =>
    rw [outcome] at read
    cases read
  | ok other =>
    rw [outcome] at read
    cases read
    rw [stored]
    exact congrArg some
      (Token.faithful.exact.encode_of_read (Outcome.inContext_eq_ok_iff.mp outcome)).symm

theorem Identity.DescribedBy.isNone_eq_false {owner : Identity} {info : Bytes}
    (described : owner.DescribedBy P info) : owner.isNone = false := by
  cases described with
  | plain _ described =>
    obtain ⟨_, _, _, read, -⟩ := described
    exact TypedIdentity.isNone_of_parse read
  | script _ isScript =>
    obtain ⟨_, read, -⟩ := Outcome.bind_eq_ok_iff.mp isScript
    exact TypedIdentity.isNone_of_parse read

namespace TransferAction.Assembled

variable (assembled : Assembled pp inputs recipients draws tokenType action metadata)
include assembled

theorem inputs_eq : action.inputs = inputs.map fun owned => ⟨owned.id, owned.token⟩ :=
  congrArg TransferAction.inputs assembled.action_eq

theorem inputIds_eq : action.inputIds = inputs.map (·.id) := by
  rw [inputIds, assembled.inputs_eq, List.map_map]
  rfl

theorem extraSigners_eq : action.extraSigners = [] :=
  congrArg TransferAction.extraSigners assembled.action_eq

theorem forall_input {Q : ActionInput P → Prop}
    (each : ∀ owned ∈ inputs, Q ⟨owned.id, owned.token⟩) : ∀ input ∈ action.inputs, Q input := by
  rw [assembled.inputs_eq]
  exact List.forall_mem_map.mpr each

theorem check_eq_ok (few : inputs.length ≤ maxOutputs) (distinct : (inputs.map (·.id)).Nodup)
    (owned : ∀ owned ∈ inputs, owned.token.isRedeemed = false) : action.check = .ok () := by
  refine TransferAction.check_eq_ok_iff.mpr ⟨?_, ?_, assembled.tells.count assembled.count,
    ⟨?_, assembled.forall_input owned⟩, ?_⟩
  · rw [assembled.inputs_eq]
    exact mt List.map_eq_nil_iff.mp assembled.some
  · rw [assembled.inputs_eq, List.length_map]
    exact few
  · rw [assembled.inputIds_eq]
    exact distinct
  · rw [assembled.extraSigners_eq]
    exact nofun

/-- An assembled transfer is short where its inputs and the identities in it are. -/
theorem length_toBytes_le (bound : Nat)
    (short : ∀ recipient ∈ recipients, recipient.owner.bytes.length ≤ bound) :
    action.toBytes.length ≤ 232 + (ActionInput.codec.list.encode action.inputs).length +
      (recipients.length * (bound + 40) +
        (inputs.length + recipients.length) * (8 + 71 * 32)) := by
  have parts : action.toBytes.length = (ActionInput.codec.list.encode action.inputs).length +
      ((Token.codec.list.encode action.outputs).length + ((bytes.encode action.proof).length +
        ((map.encode action.metadata).length +
          (Identity.codec.list.encode action.extraSigners).length))) := by
    show List.length (_ ++ (_ ++ (_ ++ (_ ++ _)))) = _
    simp only [List.length_append]
  have outputs := assembled.tells.length_encode_le short
  have proof := TransferProof.length_le_of_prove assembled.proved
  have noMetadata : (map.encode action.metadata).length = 8 := by
    rw [assembled.action_eq]
    rfl
  have noSigners : (Identity.codec.list.encode action.extraSigners).length = 8 := by
    rw [assembled.extraSigners_eq]
    rfl
  rw [List.length_map, List.length_map, Recipient.length_openings] at proof
  rw [parts, length_encode_bytes, noMetadata, noSigners]
  omega

/-- An assembled transfer breaks no rule on a ledger, if its inputs can be spent there and its recipients
may hold tokens. The range prover is relied on, and the type commitment that is drawn is not neutral. -/
theorem valid [PointGroup.Linear P] [PointGroup.LawfulEncoding P] {ledger : Ledger} (made : pp.Made)
    (few : inputs.length ≤ maxOutputs) (distinct : (inputs.map (·.id)).Nodup)
    (spendable : ∀ owned ∈ inputs, owned.Spendable ledger)
    (held : ∀ recipient ∈ recipients, recipient.owner.MayHold ledger.time)
    (reliable : TransferProof.RangesReliable pp (inputs.map (·.opening)) (inputs.map (·.token.data))
      (Recipient.openings tokenType recipients draws)
      ((Recipient.openings tokenType recipients draws).map (·.commitment pp.generators))
      (draws.skip recipients.length))
    (proper : (pp.generators.commitType tokenType (draws recipients.length)).isIdentity = false) :
    action.Valid pp ledger where
  wellFormed := assembled.check_eq_ok few distinct fun owned mem =>
    (spendable owned mem).described.isNone_eq_false
  stored := assembled.forall_input fun owned mem => Ledger.state?_of_token? (spendable owned mem).read
  proved := by
    have commitments : action.commitments = _ := assembled.tells.commitments
    have spent : action.inputCommitments = inputs.map (·.token.data) := by
      rw [inputCommitments, assembled.inputs_eq, List.map_map]
      rfl
    rw [commitments, spent]
    refine TransferProof.verify_of_prove made.bitLength_mem reliable assembled.proved ?_
    intro witnessed witnesses
    obtain ⟨first, rest, listed⟩ := List.exists_cons_of_ne_nil assembled.some
    have first_mem : first ∈ inputs := listed ▸ List.mem_cons_self
    rw [← witnesses.typed _ (List.mem_map_of_mem first_mem), (assembled.opened first first_mem).1]
    exact proper
  released := assembled.forall_input fun owned mem isScript =>
    absurd ((spendable owned mem).plain.symm.trans isScript) Bool.false_ne_true
  held := assembled.tells.forall_owner (Q := fun owner => owner.MayHold ledger.time) held

/-- The metadata of an assembled transfer and the tokens that it spends tell all of it, if the audit
infos are true. -/
theorem disclosedBy [PointGroup.LawfulEncoding P]
    (senders : ∀ owned ∈ inputs, owned.token.owner.DescribedBy P owned.auditInfo)
    (described : ∀ recipient ∈ recipients, recipient.owner.isNone = false →
      recipient.owner.DescribedBy P recipient.auditInfo) :
    action.DisclosedBy pp.generators metadata (inputs.map (·.token)) := by
  have senderInfos : metadata.senderAuditInfos = inputs.map (·.auditInfo) :=
    congrArg TransferMetadata.senderAuditInfos assembled.metadata_eq
  have infos : metadata.outputAuditInfos = recipients.map Recipient.auditInfo :=
    congrArg TransferMetadata.outputAuditInfos assembled.metadata_eq
  refine ⟨?_, ?_, ?_, assembled.tells.length_disclosures, ?_,
    fun _ _ _ => assembled.tells.openedBy, ?_⟩
  · rw [assembled.inputs_eq, List.map_map]
    rfl
  · rw [senderInfos, List.length_map, List.length_map]
  · intro i token info there told _
    rw [List.getElem?_map] at there
    obtain ⟨owned, listed, rfl⟩ := Option.map_eq_some_iff.mp there
    rw [senderInfos, List.getElem?_map, listed] at told
    cases told
    exact senders owned (List.mem_of_getElem? listed)
  · rw [infos, List.length_map, assembled.tells.length_outputs]
  · intro i output info there told
    rw [infos] at told
    exact assembled.tells.of_info (Q := fun owner info => owner.isNone = false →
      owner.DescribedBy P info) described there told

end TransferAction.Assembled

end

end ConfidentialToken
