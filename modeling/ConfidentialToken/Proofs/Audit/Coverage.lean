import ConfidentialToken.Proofs.Audit.Acceptance
import ConfidentialToken.Proofs.Ledger.Applicability

/-!
# What metadata tells in a place

The auditor counts the outputs of each action from zero, the metadata has parallel lists for each action,
and the ledger counts all outputs of a request, the redeemed ones included. A place names an output for
all three. In a request that the auditor accepts, what metadata tells of an output in its place is true.
-/

namespace ConfidentialToken

/-! ## Places of outputs -/

/-- Where an output stands in a request: in which issue or transfer, and where among its outputs. -/
inductive OutputPlace where
  | ofIssue (action output : Nat)
  | ofTransfer (action output : Nat)
deriving DecidableEq, Repr

namespace OutputPlace

variable {P : Type}

/-- The output in a place. -/
def output? (actions : ValidatedActions P) : OutputPlace → Option (Token P)
  | ofIssue k i => actions.issues[k]?.bind (·.outputs[i]?)
  | ofTransfer k i => actions.transfers[k]?.bind (·.outputs[i]?)

/-- The number of a place: the outputs of all issues are counted, then those of all transfers. -/
def number (actions : ValidatedActions P) : OutputPlace → Nat
  | ofIssue k i => ((actions.issues.take k).flatMap IssueAction.outputs).length + i
  | ofTransfer k i => (actions.issues.flatMap IssueAction.outputs).length +
      (((actions.transfers.take k).flatMap TransferAction.outputs).length + i)

/-- The disclosure that metadata has for a place. -/
def disclosure? (metadata : RequestMetadata) : OutputPlace → Option Bytes
  | ofIssue k i => metadata.issues[k]?.bind (·.outputsMetadata[i]?)
  | ofTransfer k i => metadata.transfers[k]?.bind (·.outputsMetadata[i]?)

/-- The audit info that metadata has for the owner of the output in a place. -/
def ownerInfo? (metadata : RequestMetadata) : OutputPlace → Option Bytes
  | ofIssue k i => metadata.issues[k]?.bind (·.receiverAuditInfos[i]?)
  | ofTransfer k i => metadata.transfers[k]?.bind (·.outputAuditInfos[i]?)

end OutputPlace

/-- An entry of lists that are put together is in one of them, behind all that the lists before hold. -/
theorem exists_getElem?_of_flatMap {α β : Type} {items : List α} {f : α → List β} {n : Nat} {b : β}
    (there : (items.flatMap f)[n]? = some b) : ∃ k a i, items[k]? = some a ∧ (f a)[i]? = some b ∧
      ((items.take k).flatMap f).length + i = n := by
  induction items generalizing n with
  | nil => cases there
  | cons item items ih =>
    rw [List.flatMap_cons] at there
    by_cases first : n < (f item).length
    · rw [List.getElem?_append_left first] at there
      exact ⟨0, item, n, rfl, there, Nat.zero_add n⟩
    · have first := Nat.le_of_not_lt first
      rw [List.getElem?_append_right first] at there
      obtain ⟨k, a, i, listed, found, number⟩ := ih there
      refine ⟨k + 1, a, i, listed, found, ?_⟩
      rw [List.take_succ_cons, List.flatMap_cons, List.length_append]
      omega

variable {P : Type}

/-- Every output that the ledger counts has a place with its number. -/
theorem OutputPlace.exists_of_getElem? {actions : ValidatedActions P} {n : Nat} {token : Token P}
    (there : (Ledger.outputsOf actions.issues actions.transfers)[n]? = some token) :
    ∃ place : OutputPlace, place.output? actions = some token ∧ place.number actions = n := by
  unfold Ledger.outputsOf at there
  by_cases issued : n < (actions.issues.flatMap IssueAction.outputs).length
  · rw [List.getElem?_append_left issued] at there
    obtain ⟨k, action, i, listed, found, number⟩ := exists_getElem?_of_flatMap there
    refine ⟨.ofIssue k i, ?_, number⟩
    rw [output?, listed]
    exact found
  · have issued := Nat.le_of_not_lt issued
    rw [List.getElem?_append_right issued] at there
    obtain ⟨k, action, i, listed, found, number⟩ := exists_getElem?_of_flatMap there
    refine ⟨.ofTransfer k i, ?_, ?_⟩
    · rw [output?, listed]
      exact found
    · rw [OutputPlace.number, number]
      omega

/-! ## Disclosed actions -/

section

variable [PointGroup P] {g : Generators P} {request : TokenRequest} {metadata : RequestMetadata}
  {spent : List (List (Token P))} {actions : ValidatedActions P}

/-- What metadata tells of a token in a place is true: the disclosure opens the token, and inspection
finds the owner that the audit info describes. -/
structure Token.ToldAt (token : Token P) (g : Generators P) (metadata : RequestMetadata)
    (place : OutputPlace) : Prop where
  opened : ∃ disclosure, place.disclosure? metadata = some disclosure ∧ token.OpenedBy g disclosure
  inspected : ∃ info, place.ownerInfo? metadata = some info ∧
    ∀ opening index, Auditor.inspectOwner ⟨token, opening, info⟩ index = .ok ()

namespace TokenRequest.DisclosedBy

/-- Each issue that was read is told in its place. -/
theorem exists_issue (full : request.DisclosedBy g metadata spent)
    (read : request.readActions P = .ok (actions.issues, actions.transfers)) {k : Nat}
    {action : IssueAction P} (listed : actions.issues[k]? = some action) :
    ∃ told, metadata.issues[k]? = some told ∧ action.DisclosedBy g told := by
  obtain ⟨issues, -⟩ := readActions_eq_ok_iff.mp read
  obtain ⟨bytes, there, same⟩ := exists_getElem?_of_forall₂ issues listed
  have bound : k < metadata.issues.length :=
    full.issues ▸ (List.getElem?_eq_some_iff.mp there).1
  have told := List.getElem?_eq_getElem bound
  obtain ⟨action', same', disclosed⟩ := full.issue k bytes _ there told
  cases same.symm.trans same'
  exact ⟨_, told, disclosed⟩

/-- Each transfer that was read is told in its place, where the tokens that it spends are shown. -/
theorem exists_transfer (full : request.DisclosedBy g metadata spent)
    (read : request.readActions P = .ok (actions.issues, actions.transfers)) {k : Nat}
    {action : TransferAction P} (listed : actions.transfers[k]? = some action) :
    ∃ told tokens, metadata.transfers[k]? = some told ∧ spent[k]? = some tokens ∧
      action.DisclosedBy g told tokens := by
  obtain ⟨-, transfers⟩ := readActions_eq_ok_iff.mp read
  obtain ⟨bytes, there, same⟩ := exists_getElem?_of_forall₂ transfers listed
  have bound : k < metadata.transfers.length :=
    full.transfers ▸ (List.getElem?_eq_some_iff.mp there).1
  have told := List.getElem?_eq_getElem bound
  have shown := List.getElem?_eq_getElem (full.spends ▸ bound)
  obtain ⟨action', same', disclosed⟩ := full.transfer k bytes _ _ there told shown
  cases same.symm.trans same'
  exact ⟨_, _, told, shown, disclosed⟩

/-- Every output opens as disclosed in its place, a redeemed one as well. -/
theorem openedAt (full : request.DisclosedBy g metadata spent)
    (read : request.readActions P = .ok (actions.issues, actions.transfers)) {place : OutputPlace}
    {token : Token P} (there : place.output? actions = some token) :
    ∃ disclosure, place.disclosure? metadata = some disclosure ∧ token.OpenedBy g disclosure := by
  cases place with
  | ofIssue k i =>
    obtain ⟨action, listed, found⟩ := Option.bind_eq_some_iff.mp there
    obtain ⟨told, hasTold, disclosed⟩ := full.exists_issue read listed
    have bound := (List.getElem?_eq_some_iff.mp found).1
    have disclosure := List.getElem?_eq_getElem (disclosed.disclosures ▸ bound)
    exact ⟨_, Option.bind_eq_some_iff.mpr ⟨told, hasTold, disclosure⟩,
      disclosed.opened i _ _ found disclosure⟩
  | ofTransfer k i =>
    obtain ⟨action, listed, found⟩ := Option.bind_eq_some_iff.mp there
    obtain ⟨told, tokens, hasTold, -, disclosed⟩ := full.exists_transfer read listed
    have bound := (List.getElem?_eq_some_iff.mp found).1
    have disclosure := List.getElem?_eq_getElem (disclosed.disclosures ▸ bound)
    exact ⟨_, Option.bind_eq_some_iff.mpr ⟨told, hasTold, disclosure⟩,
      disclosed.opened i _ _ found disclosure⟩

/-- The owner of an owned output is the one that is described in its place. -/
theorem describedAt (full : request.DisclosedBy g metadata spent)
    (read : request.readActions P = .ok (actions.issues, actions.transfers)) {place : OutputPlace}
    {token : Token P} (there : place.output? actions = some token)
    (owned : token.isRedeemed = false) :
    ∃ info, place.ownerInfo? metadata = some info ∧ token.owner.DescribedBy P info := by
  cases place with
  | ofIssue k i =>
    obtain ⟨action, listed, found⟩ := Option.bind_eq_some_iff.mp there
    obtain ⟨told, hasTold, disclosed⟩ := full.exists_issue read listed
    have bound := (List.getElem?_eq_some_iff.mp found).1
    have info := List.getElem?_eq_getElem (Nat.lt_of_lt_of_le bound disclosed.infos)
    exact ⟨_, Option.bind_eq_some_iff.mpr ⟨told, hasTold, info⟩,
      disclosed.described i _ _ found info⟩
  | ofTransfer k i =>
    obtain ⟨action, listed, found⟩ := Option.bind_eq_some_iff.mp there
    obtain ⟨told, tokens, hasTold, -, disclosed⟩ := full.exists_transfer read listed
    have bound := (List.getElem?_eq_some_iff.mp found).1
    have info := List.getElem?_eq_getElem (disclosed.infos ▸ bound)
    exact ⟨_, Option.bind_eq_some_iff.mpr ⟨told, hasTold, info⟩,
      disclosed.described i _ _ found info owned⟩

/-- What is told of an owned output in its place is true. -/
theorem toldAt (full : request.DisclosedBy g metadata spent)
    (read : request.readActions P = .ok (actions.issues, actions.transfers)) {place : OutputPlace}
    {token : Token P} (there : place.output? actions = some token)
    (owned : token.isRedeemed = false) : token.ToldAt g metadata place := by
  obtain ⟨info, informed, described⟩ := full.describedAt read there owned
  exact ⟨full.openedAt read there,
    ⟨info, informed, fun _ _ => Auditor.inspectOwner_eq_ok_iff.mpr described⟩⟩

end TokenRequest.DisclosedBy

end

/-! ## What is told of the reclaim -/

namespace Plain

/-- What the auditor is told about both parties of the swap. -/
def swapInfo : ScriptInfo := ⟨sender.auditInfo, recipient.auditInfo⟩

/-- No euros, with a blinding factor that makes their commitment that of the swap's token. -/
def lockedOpening : Opening := ⟨"EUR", 0, 5 - Scalar.hash (Bytes.ofText "EUR") * 2⟩

/-- With another value it opens what is more by a multiple of the value base. -/
theorem log_commitment_lockedOpening (value : UInt64) :
    ({ lockedOpening with value }.commitment generators).point.log =
      Scalar.ofNat value.toNat * 3 + 5 := by
  show Scalar.hash (Bytes.ofText "EUR") * 2 + (Scalar.ofNat value.toNat * 3 +
    ((5 - Scalar.hash (Bytes.ofText "EUR") * 2) * 1 + 0)) = _
  rw [mul_one, add_zero, add_left_comm, add_sub_cancel]

theorem commitment_lockedOpening : lockedOpening.commitment generators = locked.data :=
  congrArg Commitment.mk (eq_of_log ((log_commitment_lockedOpening 0).trans (by decide)))

/-- The metadata of the reclaim. -/
def reclaimMetadata : RequestMetadata :=
  ⟨[], [⟨[lockedId], [swap.toIdentity], [swapInfo.toBytes], [Disclosure.toBytes ⟨lockedOpening, none⟩],
    [sender.auditInfo], [sender.identity], [sender.auditInfo], []⟩], .empty⟩

theorem sender_described : sender.identity.PartyDescribedBy Plain sender.auditInfo :=
  Credential.x509_describedBy (by decide) (by decide) rawSender_fits

theorem recipient_described : recipient.identity.PartyDescribedBy Plain recipient.auditInfo :=
  Credential.x509_describedBy (by decide) (by decide) rawRecipient_fits

theorem locked_described : locked.owner.DescribedBy Plain swapInfo.toBytes :=
  .script nofun ofIdentity_locked (ScriptInfo.ofBytes_toBytes (by decide) (by decide))
    sender_described recipient_described

theorem opened_lockedOpening {token : Token Plain} (same : token.data = locked.data) :
    token.OpenedBy generators (Disclosure.toBytes ⟨lockedOpening, none⟩) :=
  ⟨_, Disclosure.ofBytes_toBytes (by decide), commitment_lockedOpening.trans same.symm⟩

theorem reclaim_disclosed : reclaim.DisclosedBy generators reclaimMetadata [[locked]] where
  issues := rfl
  transfers := rfl
  spends := rfl
  issue _ _ _ absent := nomatch absent
  transfer k bytes told tokens read isTold isShown := by
    -- there is one transfer, with one input and one output, so all places are the first
    obtain rfl := List.mem_singleton.mp (List.mem_of_getElem? read)
    obtain rfl := List.mem_singleton.mp (List.mem_of_getElem? isTold)
    obtain rfl := List.mem_singleton.mp (List.mem_of_getElem? isShown)
    refine ⟨giveBack, TransferAction.ofBytes_toBytes giveBack_fits, rfl, rfl, ?_, rfl, rfl, ?_, ?_⟩
    · intro i token info there isInfo _
      obtain rfl := List.mem_singleton.mp (List.mem_of_getElem? there)
      obtain rfl := List.mem_singleton.mp (List.mem_of_getElem? isInfo)
      exact locked_described
    · intro i output disclosure there isDisclosure
      obtain rfl := List.mem_singleton.mp (List.mem_of_getElem? there)
      obtain rfl := List.mem_singleton.mp (List.mem_of_getElem? isDisclosure)
      exact opened_lockedOpening rfl
    · intro i output info there isInfo _
      obtain rfl := List.mem_singleton.mp (List.mem_of_getElem? there)
      obtain rfl := List.mem_singleton.mp (List.mem_of_getElem? isInfo)
      exact .plain nofun sender_described

end Plain

end ConfidentialToken
