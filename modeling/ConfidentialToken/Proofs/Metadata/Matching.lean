import ConfidentialToken.Proofs.Action
import ConfidentialToken.Proofs.Metadata.Filtering

/-!
# Metadata that describes actions

Metadata describes an action when the action is well formed and the lists in the metadata have the
lengths that go with it. The receivers are counted against their audit infos alone, and not against the
outputs of the action. Filtering goes over the receivers, so it gives metadata that still describes the
action exactly when there is one receiver for each output; with fewer, outputs lose their slots, and with
more, filtering may fail.
-/

namespace ConfidentialToken

open Metadata (Slot)

/-! ## Descriptions of actions -/

section

variable {P : Type} [PointGroup P]

theorem matchExtraSigners_eq_ok_iff {expected actual : List Identity} :
    matchExtraSigners expected actual = .ok () ↔ expected = actual := by
  simp only [matchExtraSigners, Outcome.guard_bind_eq_ok_iff, ne_eq, not_not]
  rw [← List.forall₂_eq_eq_eq, List.forall₂_iff_zip]
  refine and_congr_right fun _ => ?_
  generalize found : (expected.zip actual).find? _ = differing
  cases differing with
  | none =>
    refine iff_of_true rfl fun {e a} listed => ?_
    simpa using List.find?_eq_none.mp found (e, a) listed
  | some pair =>
    obtain ⟨e, a⟩ := pair
    refine iff_of_false nofun fun same => ?_
    have differ : e ≠ a := by simpa using List.find?_some found
    exact differ (same (List.mem_of_find?_eq_some found))

/-- Metadata describes an issue. -/
structure IssueMetadata.Describes (m : IssueMetadata) (action : IssueAction P) : Prop where
  wellFormed : action.check = .ok ()
  tokenIds : m.tokenIds = []
  outputs : m.outputsMetadata.length = action.outputs.length
  receivers : m.receivers.length = m.receiverAuditInfos.length
  extraSigners : m.extraSigners = []

theorem IssueMetadata.matchAction_eq_ok_iff {m : IssueMetadata} {action : IssueAction P} :
    m.matchAction action = .ok () ↔ m.Describes action := by
  simp only [matchAction, Outcome.check_bind_eq_ok_iff, Outcome.guard_bind_eq_ok_iff,
    Outcome.inContext_eq_ok_iff, matchExtraSigners_eq_ok_iff, ne_eq, not_not]
  constructor
  · intro h
    obtain ⟨wellFormed, tokenIds, outputs, receivers, extraSigners⟩ := h
    exact ⟨wellFormed, tokenIds, outputs, receivers, extraSigners⟩
  · intro h
    exact ⟨h.wellFormed, h.tokenIds, h.outputs, h.receivers, h.extraSigners⟩

/-- Metadata describes a transfer. The ids of the spent tokens may be left out. -/
structure TransferMetadata.Describes (m : TransferMetadata) (action : TransferAction P) : Prop where
  wellFormed : action.check = .ok ()
  tokenIds : m.tokenIds ≠ [] → m.senders.length = m.tokenIds.length
  senders : m.senders.length = m.senderAuditInfos.length
  outputs : m.outputsMetadata.length = action.outputs.length
  outputAuditInfos : m.outputAuditInfos.length = action.outputs.length
  receivers : m.receivers.length = m.receiverAuditInfos.length
  extraSigners : m.extraSigners = action.extraSigners

theorem TransferMetadata.matchAction_eq_ok_iff {m : TransferMetadata} {action : TransferAction P} :
    m.matchAction action = .ok () ↔ m.Describes action := by
  simp only [matchAction, Outcome.check_bind_eq_ok_iff, Outcome.guard_bind_eq_ok_iff,
    Outcome.inContext_eq_ok_iff, matchExtraSigners_eq_ok_iff, ne_eq, not_and, not_not]
  constructor
  · intro h
    obtain ⟨wellFormed, tokenIds, senders, outputs, infos, receivers, extraSigners⟩ := h
    exact ⟨wellFormed, tokenIds, senders, outputs, infos, receivers, extraSigners⟩
  · intro h
    exact ⟨h.wellFormed, h.tokenIds, h.senders, h.outputs, h.outputAuditInfos, h.receivers,
      h.extraSigners⟩

end

/-! ## Descriptions after filtering -/

/-- Every receiver of an issue has an id. -/
def IssueMetadata.Resolves (lookup : EnrollmentLookup) (m : IssueMetadata) : Prop :=
  ∀ source ∈ m.slotSources, ∃ id, source.Resolves lookup id

/-- Every receiver of a transfer has an id. -/
def TransferMetadata.Resolves (lookup : EnrollmentLookup) (m : TransferMetadata) : Prop :=
  ∀ source ∈ m.slotSources, ∃ id, source.Resolves lookup id

variable {P : Type} {lookup : EnrollmentLookup} {ids : List String}

/-- Slots become something when all receivers have ids and nothing is missing. -/
theorem SlotSource.exists_slots {sources : List SlotSource}
    (resolves : ∀ source ∈ sources, ∃ id, source.Resolves lookup id)
    (there : ∀ (i : Nat) source, sources[i]? = some source → ∃ metadata info,
      source.outputMetadata = some metadata ∧ source.outputAuditInfo = some info) :
    ∃ slots, List.Forall₂ (SlotSource.Becomes lookup ids) sources slots := by
  refine exists_forall₂_iff.mpr fun source listed => ?_
  obtain ⟨id, resolved⟩ := resolves source listed
  obtain ⟨i, here⟩ := List.mem_iff_getElem?.mp listed
  obtain ⟨metadata, info, disclosed, informed⟩ := there i source here
  exact exists_becomes resolved disclosed informed

/-- The metadata of an issue can be filtered when it describes one with enough outputs. -/
theorem IssueMetadata.Describes.exists_filtered {m : IssueMetadata} {action : IssueAction P}
    (h : m.Describes action) (resolves : m.Resolves lookup)
    (enough : m.receivers.length ≤ action.outputs.length) :
    ∃ filtered, m.FilteredTo lookup ids filtered := by
  obtain ⟨slots, become⟩ := SlotSource.exists_slots resolves fun i source here => by
    obtain ⟨info, hasInfo, rfl⟩ := slotSources_getElem?_eq_some_iff.mp here
    have bound : i < action.outputs.length :=
      Nat.lt_of_lt_of_le (h.receivers ▸ (List.getElem?_eq_some_iff.mp hasInfo).1) enough
    exact ⟨_, _, List.getElem?_eq_getElem (h.outputs ▸ bound), rfl⟩
  exact ⟨m.withSlots slots, slots, become, rfl⟩

/-- The metadata of a transfer can be filtered when it describes one with enough outputs. -/
theorem TransferMetadata.Describes.exists_filtered {m : TransferMetadata} {action : TransferAction P}
    (h : m.Describes action) (resolves : m.Resolves lookup)
    (enough : m.receivers.length ≤ action.outputs.length) :
    ∃ filtered, m.FilteredTo lookup ids filtered := by
  obtain ⟨slots, become⟩ := SlotSource.exists_slots resolves fun i source here => by
    obtain ⟨info, hasInfo, rfl⟩ := slotSources_getElem?_eq_some_iff.mp here
    have bound : i < action.outputs.length :=
      Nat.lt_of_lt_of_le (h.receivers ▸ (List.getElem?_eq_some_iff.mp hasInfo).1) enough
    exact ⟨_, _, List.getElem?_eq_getElem (h.outputs ▸ bound),
      List.getElem?_eq_getElem (h.outputAuditInfos ▸ bound)⟩
  exact ⟨m.withSlots slots, slots, become, fun _ => h.senders.le, rfl⟩

/-- Filtered metadata of an issue describes it when there was one receiver for each output. -/
theorem IssueMetadata.Describes.filtered_iff {m filtered : IssueMetadata} {action : IssueAction P}
    (h : m.Describes action) (made : m.FilteredTo lookup ids filtered) :
    filtered.Describes action ↔ m.receivers.length = action.outputs.length := by
  obtain ⟨slots, become, rfl⟩ := made
  have length : m.receivers.length = slots.length := by
    rw [h.receivers, ← length_slotSources, become.length_eq]
  rw [length]
  constructor
  · intro described
    simpa [withSlots] using described.outputs
  · intro one
    exact ⟨h.wellFormed, h.tokenIds, by simpa [withSlots] using one, by simp [withSlots], h.extraSigners⟩

/-- Filtered metadata of a transfer describes it when there was one receiver for each output. -/
theorem TransferMetadata.Describes.filtered_iff {m filtered : TransferMetadata}
    {action : TransferAction P} (h : m.Describes action) (made : m.FilteredTo lookup ids filtered) :
    filtered.Describes action ↔ m.receivers.length = action.outputs.length := by
  obtain ⟨slots, become, -, rfl⟩ := made
  have length : m.receivers.length = slots.length := by
    rw [h.receivers, ← length_slotSources, become.length_eq]
  rw [length]
  constructor
  · intro described
    simpa [withSlots] using described.outputs
  · intro one
    refine ⟨h.wellFormed, fun told => absurd rfl told, ?_, by simpa [withSlots] using one,
      by simpa [withSlots] using one, by simp [withSlots], h.extraSigners⟩
    by_cases told : slots.any Slot.kept = true
    · simp [withSlots, told, h.senders]
    · simp [withSlots, told]

/-! ## Absent outputs -/

theorem isSlotAbsent_iff {slots : List Bytes} {i : Nat} :
    isSlotAbsent slots i = true ↔ ∀ bytes, slots[i]? = some bytes → bytes = [] := by
  unfold isSlotAbsent
  rw [List.getD_eq_getElem?_getD]
  cases slots[i]? with
  | none => simp
  | some held => simp

/-- A slot holds what its source discloses, or nothing. -/
theorem SlotSource.exists_output_eq {sources : List SlotSource} {slots : List Slot} {i : Nat}
    {bytes : Bytes} (become : List.Forall₂ (SlotSource.Becomes lookup ids) sources slots)
    (there : (slots.map Slot.outputMetadata)[i]? = some bytes) :
    ∃ source, sources[i]? = some source ∧ (source.outputMetadata = some bytes ∨ bytes = []) := by
  obtain ⟨slot, listed, rfl⟩ : ∃ slot, slots[i]? = some slot ∧ slot.outputMetadata = bytes := by
    simpa using there
  obtain ⟨source, listed', becomes⟩ := exists_getElem?_of_forall₂ become listed
  exact ⟨source, listed', becomes.outputMetadata_eq⟩

/-- Filtering leaves a disclosure of an issue as it is or makes it empty. -/
theorem IssueMetadata.FilteredTo.output_eq {m filtered : IssueMetadata} {i : Nat} {bytes : Bytes}
    (made : m.FilteredTo lookup ids filtered) (there : filtered.outputsMetadata[i]? = some bytes) :
    m.outputsMetadata[i]? = some bytes ∨ bytes = [] := by
  obtain ⟨slots, become, rfl⟩ := made
  obtain ⟨source, listed, same⟩ := SlotSource.exists_output_eq become there
  obtain ⟨info, -, rfl⟩ := slotSources_getElem?_eq_some_iff.mp listed
  exact same

/-- Filtering leaves a disclosure of a transfer as it is or makes it empty. -/
theorem TransferMetadata.FilteredTo.output_eq {m filtered : TransferMetadata} {i : Nat}
    {bytes : Bytes} (made : m.FilteredTo lookup ids filtered)
    (there : filtered.outputsMetadata[i]? = some bytes) :
    m.outputsMetadata[i]? = some bytes ∨ bytes = [] := by
  obtain ⟨slots, become, -, rfl⟩ := made
  obtain ⟨source, listed, same⟩ := SlotSource.exists_output_eq become there
  obtain ⟨info, -, rfl⟩ := slotSources_getElem?_eq_some_iff.mp listed
  exact same

/-- What is absent stays so when nothing else than what was there or is empty is in the slots. -/
theorem isSlotAbsent_of_output_eq {slots slots' : List Bytes} {i : Nat}
    (same : ∀ bytes, slots'[i]? = some bytes → slots[i]? = some bytes ∨ bytes = [])
    (absent : isSlotAbsent slots i = true) : isSlotAbsent slots' i = true := by
  refine isSlotAbsent_iff.mpr fun bytes there => ?_
  rcases same bytes there with there | empty
  · exact isSlotAbsent_iff.mp absent bytes there
  · exact empty

/-! ## Requests -/

variable [PointGroup P]

/-- Filtered metadata of an issue matches what its source matches, exactly if this has one receiver for
each output; and what was absent stays so. -/
structure IssueMetadata.MatchesAs (P : Type) [PointGroup P] (m filtered : IssueMetadata) : Prop where
  matchAction_iff : ∀ action : IssueAction P, m.matchAction action = .ok () →
    (filtered.matchAction action = .ok () ↔ m.receivers.length = action.outputs.length)
  absent : ∀ i, m.isOutputAbsent i = true → filtered.isOutputAbsent i = true

/-- Filtered metadata of a transfer matches what its source matches, exactly if this has one receiver for
each output; and what was absent stays so. -/
structure TransferMetadata.MatchesAs (P : Type) [PointGroup P] (m filtered : TransferMetadata) :
    Prop where
  matchAction_iff : ∀ action : TransferAction P, m.matchAction action = .ok () →
    (filtered.matchAction action = .ok () ↔ m.receivers.length = action.outputs.length)
  absent : ∀ i, m.isOutputAbsent i = true → filtered.isOutputAbsent i = true

theorem IssueMetadata.FilteredTo.matchesAs {m filtered : IssueMetadata}
    (made : m.FilteredTo lookup ids filtered) : m.MatchesAs P filtered where
  matchAction_iff action described := by
    rw [matchAction_eq_ok_iff] at described ⊢
    exact described.filtered_iff made
  absent _ := isSlotAbsent_of_output_eq fun _ => made.output_eq

theorem TransferMetadata.FilteredTo.matchesAs {m filtered : TransferMetadata}
    (made : m.FilteredTo lookup ids filtered) : m.MatchesAs P filtered where
  matchAction_iff action described := by
    rw [matchAction_eq_ok_iff] at described ⊢
    exact described.filtered_iff made
  absent _ := isSlotAbsent_of_output_eq fun _ => made.output_eq

namespace Metadata

/-- Filtering succeeds when all receivers have ids and each entry matches an action that has as many
outputs as the entry has receivers, or more. When it succeeds, a filtered entry matches an action that
its source matches exactly if the source has one receiver for each output, and no output that was absent
appears. -/
theorem filterBy_matches {source : RequestMetadata} :
    ((∀ m ∈ source.issues, m.Resolves lookup ∧ ∃ action : IssueAction P,
        m.matchAction action = .ok () ∧ m.receivers.length ≤ action.outputs.length) →
      (∀ m ∈ source.transfers, m.Resolves lookup ∧ ∃ action : TransferAction P,
        m.matchAction action = .ok () ∧ m.receivers.length ≤ action.outputs.length) →
      ∃ filtered, ∀ log records, ((filterBy lookup log ids source).perform records).1 = .ok filtered) ∧
    ∀ log records filtered, ((filterBy lookup log ids source).perform records).1 = .ok filtered →
      List.Forall₂ (IssueMetadata.MatchesAs P) source.issues filtered.issues ∧
        List.Forall₂ (TransferMetadata.MatchesAs P) source.transfers filtered.transfers := by
  constructor
  · intro issues transfers
    obtain ⟨filteredIssues, madeIssues⟩ : ∃ filtered,
        List.Forall₂ (IssueMetadata.FilteredTo lookup ids) source.issues filtered := by
      refine exists_forall₂_iff.mpr fun m listed => ?_
      obtain ⟨resolves, action, described, enough⟩ := issues m listed
      exact (IssueMetadata.matchAction_eq_ok_iff.mp described).exists_filtered resolves enough
    obtain ⟨filteredTransfers, madeTransfers⟩ : ∃ filtered,
        List.Forall₂ (TransferMetadata.FilteredTo lookup ids) source.transfers filtered := by
      refine exists_forall₂_iff.mpr fun m listed => ?_
      obtain ⟨resolves, action, described, enough⟩ := transfers m listed
      exact (TransferMetadata.matchAction_eq_ok_iff.mp described).exists_filtered resolves enough
    exact ⟨⟨filteredIssues, filteredTransfers, source.application⟩,
      fun _ _ => filterBy_eq_ok_iff.mpr ⟨madeIssues, madeTransfers, rfl⟩⟩
  · intro log records filtered success
    have made := filterBy_eq_ok_iff.mp success
    exact ⟨made.issues.imp fun _ _ issue => issue.matchesAs,
      made.transfers.imp fun _ _ transfer => transfer.matchesAs⟩

end Metadata

namespace Plain

/-- An issue of the locked token to two slots. -/
def mintTwo : IssueAction Plain := issue sender.identity [locked, locked]

/-- A transfer of the locked token. -/
def pay (outputs : List (Token Plain)) : TransferAction Plain :=
  ⟨[⟨lockedId, locked⟩], outputs, [], .empty, []⟩

theorem isRedeemed_locked : locked.isRedeemed = false := by decide

theorem check_mintTwo : mintTwo.check = .ok () := by
  have owned : ∀ output ∈ [locked, locked], output.isRedeemed = false := by
    simp [isRedeemed_locked]
  exact (issue_valid (by decide) (by simp) (by decide) owned).wellFormed

theorem check_pay {outputs : List (Token Plain)} (some : outputs ≠ [])
    (few : outputs.length ≤ maxOutputs) : (pay outputs).check = .ok () := by
  have one : 1 ≤ maxOutputs := by decide
  exact TransferAction.check_eq_ok_iff.mpr ⟨nofun, one, ⟨some, few⟩,
    ⟨List.nodup_singleton lockedId, List.forall_mem_singleton.mpr isRedeemed_locked⟩, nofun⟩

/-- The payment can be filtered, and what the sender sees of it matches the actions of the payment. -/
theorem payment_matches : ∃ filtered,
    (∀ log records, ((Metadata.filterBy Identity.enrollmentId log ["alice"]
      (payment [2] [] lockedId)).perform records).1 = .ok filtered) ∧
    List.Forall₂ (IssueMetadata.MatchesAs Plain) (payment [2] [] lockedId).issues filtered.issues ∧
    List.Forall₂ (TransferMetadata.MatchesAs Plain) (payment [2] [] lockedId).transfers
      filtered.transfers := by
  have toSender {disclosure info : Option Bytes} : ∃ id, SlotSource.Resolves Identity.enrollmentId
      ⟨some sender.identity, sender.auditInfo, disclosure, info⟩ id :=
    ⟨_, _, rfl, enrollmentId_sender⟩
  have toRecipient {disclosure info : Option Bytes} : ∃ id, SlotSource.Resolves Identity.enrollmentId
      ⟨some recipient.identity, recipientInfo [], disclosure, info⟩ id :=
    ⟨_, _, rfl, enrollmentId_recipient (by decide)⟩
  have issues : ∀ m ∈ (payment [2] [] lockedId).issues, m.Resolves Identity.enrollmentId ∧
      ∃ action : IssueAction Plain, m.matchAction action = .ok () ∧
        m.receivers.length ≤ action.outputs.length := by
    refine List.forall_mem_singleton.mpr ⟨?_, mintTwo, ?_, Nat.le_refl 2⟩
    · exact List.forall_mem_cons.mpr ⟨toSender, List.forall_mem_singleton.mpr toRecipient⟩
    · exact IssueMetadata.matchAction_eq_ok_iff.mpr ⟨check_mintTwo, rfl, rfl, rfl, rfl⟩
  have transfers : ∀ m ∈ (payment [2] [] lockedId).transfers, m.Resolves Identity.enrollmentId ∧
      ∃ action : TransferAction Plain, m.matchAction action = .ok () ∧
        m.receivers.length ≤ action.outputs.length := by
    refine List.forall_mem_cons.mpr ⟨⟨?_, pay [locked, locked], ?_, Nat.le_refl 2⟩,
      List.forall_mem_singleton.mpr ⟨?_, pay [locked], ?_, Nat.le_refl 1⟩⟩
    · exact List.forall_mem_cons.mpr ⟨toSender, List.forall_mem_singleton.mpr toRecipient⟩
    · exact TransferMetadata.matchAction_eq_ok_iff.mpr
        ⟨check_pay (by simp) (by decide), fun _ => rfl, rfl, rfl, rfl, rfl, rfl⟩
    · exact List.forall_mem_singleton.mpr toRecipient
    · exact TransferMetadata.matchAction_eq_ok_iff.mpr
        ⟨check_pay (by simp) (by decide), fun _ => rfl, rfl, rfl, rfl, rfl, rfl⟩
  obtain ⟨succeeds, matched⟩ := @Metadata.filterBy_matches Plain Identity.enrollmentId ["alice"] _
    (payment [2] [] lockedId)
  obtain ⟨filtered, success⟩ := succeeds issues transfers
  obtain ⟨issues, transfers⟩ := matched .default [] filtered (success .default [])
  exact ⟨filtered, success, issues, transfers⟩

/-- Metadata with fewer receivers than outputs, of which nothing is disclosed. -/
def fewReceivers : IssueMetadata := ⟨sender.identity, [], [[], []], [sender.identity], [[]], []⟩

/-- Metadata with more receivers than outputs. -/
def manyReceivers : IssueMetadata :=
  ⟨sender.identity, [], [[]], [sender.identity, sender.identity], [[], []], []⟩

/-- Metadata can match an issue, with ids for all receivers, and not match it any more when it was
filtered, since an output has lost its slot; or it cannot be filtered at all. -/
theorem filtered_unmatched :
    (fewReceivers.matchAction mintTwo = .ok () ∧ fewReceivers.Resolves Identity.enrollmentId ∧
      ∃ filtered, ((Metadata.filterBy Identity.enrollmentId .default []
        ⟨[fewReceivers], [], .empty⟩).perform []).1 = .ok ⟨[filtered], [], .empty⟩ ∧
        filtered.matchAction mintTwo ≠ .ok ()) ∧
    (manyReceivers.matchAction (issue sender.identity [locked]) = .ok () ∧
      manyReceivers.Resolves Identity.enrollmentId ∧
      ∀ filtered, ((Metadata.filterBy Identity.enrollmentId .default [""]
        ⟨[manyReceivers], [], .empty⟩).perform []).1 ≠ .ok filtered) := by
  have named : ∀ (disclosure : Option Bytes), ∃ id, SlotSource.Resolves Identity.enrollmentId
      ⟨some sender.identity, [], disclosure, some []⟩ id :=
    fun _ => ⟨_, _, rfl, Identity.enrollmentId_nil _⟩
  constructor
  · refine ⟨IssueMetadata.matchAction_eq_ok_iff.mpr ⟨check_mintTwo, rfl, rfl, rfl, rfl⟩,
      List.forall_mem_singleton.mpr (named _), ?_⟩
    have become : List.Forall₂ (SlotSource.Becomes Identity.enrollmentId [])
        fewReceivers.slotSources [.blank sender.identity] :=
      .cons (.blank rfl (Identity.enrollmentId_nil _) nofun) .nil
    have made : fewReceivers.FilteredTo Identity.enrollmentId [] _ := ⟨_, become, rfl⟩
    refine ⟨_, Metadata.filterBy_eq_ok_iff.mpr made.alone, fun described => ?_⟩
    -- one slot is left for two outputs
    have outputs := (IssueMetadata.matchAction_eq_ok_iff.mp described).outputs
    exact absurd outputs (by decide)
  · refine ⟨IssueMetadata.matchAction_eq_ok_iff.mpr ⟨?_, rfl, rfl, rfl, rfl⟩,
      List.forall_mem_cons.mpr ⟨named _, List.forall_mem_singleton.mpr (named _)⟩, ?_⟩
    · have owned : ∀ output ∈ [locked], output.isRedeemed = false :=
        List.forall_mem_singleton.mpr isRedeemed_locked
      exact (issue_valid (by decide) (by simp) (by decide) owned).wellFormed
    · intro filtered success
      have issues := (Metadata.filterBy_eq_ok_iff.mp success).issues
      obtain ⟨_, -, slots, become, -⟩ :=
        exists_mem_of_forall₂ issues.flip (List.mem_singleton_self manyReceivers)
      have second : ⟨some sender.identity, [], none, some []⟩ ∈ manyReceivers.slotSources :=
        .tail _ (.head _)
      obtain ⟨slot, -, becomes⟩ := exists_mem_of_forall₂ become.flip second
      -- there is nothing that could be kept for the second receiver
      cases becomes with
      | kept _ _ _ disclosed _ => cases disclosed
      | blank _ told unwanted =>
        have empty := (Identity.enrollmentId_nil _).symm.trans told
        exact unwanted (Except.ok.inj empty ▸ List.mem_singleton_self "")

end Plain

end ConfidentialToken
