import ConfidentialToken.Proofs.Assembly.Requests
import ConfidentialToken.Proofs.Audit.Disclosure
import ConfidentialToken.Proofs.Audit.Resolution

/-!
# What recipients are shown

The metadata that comes with an assembled action is filtered before it goes to the recipients of the
outputs. The builders write owners, audit infos and disclosures in lists of their own, and filtering reads
them by position; since the lists are in step, each recipient has one place in all of them, which is that
of its output. So a recipient whose id is wanted gets the opening of its own output, with its own value,
and the slots of all others are empty.

Nothing is asked of the recipients but that their audit infos tell ids: neither that the infos describe
the owners, nor that the ids differ. Outputs without an owner belong to the empty id.
-/

namespace ConfidentialToken

open Metadata (Slot)

/-! ## One slot for each recipient -/

/-- The audit infos of all recipients tell ids. -/
def Recipient.Resolve (lookup : EnrollmentLookup) (recipients : List Recipient) : Prop :=
  ∀ recipient ∈ recipients, ∃ id, lookup recipient.owner recipient.auditInfo = .ok id

/-- A slot discloses an output that is made for a recipient: it tells an opening of the output, of the
type that was asked for and with the value of the recipient. -/
def Recipient.ToldIn {P : Type} [PointGroup P] (g : Generators P) (tokenType : String)
    (issuer : Option Identity) (recipient : Recipient) (output : Token P) (slot : Bytes) : Prop :=
  ∃ opening : Opening, Disclosure.ofBytes slot = .ok ⟨opening, issuer⟩ ∧
    opening.opens output.data g = true ∧ opening.value = recipient.value ∧
    opening.tokenType = tokenType

/-- What the slot of a recipient holds: nothing, unless the recipient's id is wanted; then the disclosure
of the output that is made for the recipient. -/
structure Recipient.ShownIn {P : Type} [PointGroup P] (lookup : EnrollmentLookup) (ids : List String)
    (g : Generators P) (tokenType : String) (issuer : Option Identity) (recipient : Recipient)
    (output : Token P) (slot : Bytes) : Prop where
  wanted : slot ≠ [] ↔ ∃ id ∈ ids, lookup recipient.owner recipient.auditInfo = .ok id
  told : slot ≠ [] → recipient.ToldIn g tokenType issuer output slot

/-- There is one output and one slot for each recipient, in order, and what the slot holds is for the
recipient. -/
structure Recipient.ShownOwn {P : Type} [PointGroup P] (lookup : EnrollmentLookup) (ids : List String)
    (g : Generators P) (tokenType : String) (issuer : Option Identity) (recipients : List Recipient)
    (outputs : List (Token P)) (slots : List Bytes) : Prop where
  eachOutput : outputs.length = recipients.length
  eachSlot : slots.length = recipients.length
  shown : ∀ (i : Nat) recipient output slot, recipients[i]? = some recipient →
    outputs[i]? = some output → slots[i]? = some slot →
    recipient.ShownIn lookup ids g tokenType issuer output slot

section

variable {lookup : EnrollmentLookup} {ids : List String}

/-- The disclosure of a recipient's output is shown to the recipient if its id is wanted. -/
theorem Recipient.ToldIn.shownIn {P : Type} [PointGroup P] {g : Generators P} {tokenType : String}
    {issuer : Option Identity} {recipient : Recipient} {output : Token P} {disclosure : Bytes}
    {id : String} (told : recipient.ToldIn g tokenType issuer output disclosure)
    (found : lookup recipient.owner recipient.auditInfo = .ok id) :
    recipient.ShownIn lookup ids g tokenType issuer output
      (if id ∈ ids then disclosure else []) := by
  by_cases wanted : id ∈ ids
  · rw [if_pos wanted]
    have full : disclosure ≠ [] := by
      obtain ⟨_, read, -⟩ := told
      rintro rfl
      cases read
    exact ⟨iff_of_true full ⟨id, wanted, found⟩, fun _ => told⟩
  · rw [if_neg wanted]
    refine ⟨iff_of_false (absurd rfl) ?_, fun some => absurd rfl some⟩
    rintro ⟨id', wanted', found'⟩
    cases found.symm.trans found'
    exact wanted wanted'

/-- The slots of recipients are empty in the places of ids that are not wanted, and nowhere else. -/
theorem Recipient.ShownOwn.map_isEmpty {P : Type} [PointGroup P] {g : Generators P}
    {tokenType : String} {issuer : Option Identity} {recipients : List Recipient}
    {outputs : List (Token P)} {slots : List Bytes} {known : List String}
    (shown : ShownOwn lookup ids g tokenType issuer recipients outputs slots)
    (told : List.Forall₂ (fun recipient id => lookup recipient.owner recipient.auditInfo = .ok id)
      recipients known) :
    slots.map List.isEmpty = known.map fun id => decide (id ∉ ids) := by
  refine List.ext_getElem ?_ fun i here there => ?_
  · rw [List.length_map, List.length_map, shown.eachSlot, told.length_eq]
  · have bound : i < known.length := by simpa using there
    obtain ⟨recipient, listed, found⟩ :=
      exists_getElem?_of_forall₂ told (List.getElem?_eq_getElem bound)
    have made : i < outputs.length :=
      shown.eachOutput ▸ (List.getElem?_eq_some_iff.mp listed).1
    have held : i < slots.length := by simpa using here
    have wanted := (shown.shown i recipient _ _ listed (List.getElem?_eq_getElem made)
      (List.getElem?_eq_getElem held)).wanted
    rw [found] at wanted
    simp only [Except.ok.injEq, exists_eq_right'] at wanted
    rw [List.getElem_map, List.getElem_map, Bool.eq_iff_iff, List.isEmpty_iff, decide_eq_true_iff,
      ← wanted, not_not]

/-- What metadata has for the slots of recipients: their owners and audit infos and the disclosures, which
are in step. Each output comes with some audit info too. -/
def Recipient.slotSources (outputInfo : Recipient → Bytes) (recipients : List Recipient)
    (disclosures : List Bytes) : List SlotSource :=
  List.zipWith (fun recipient disclosure =>
    ⟨some recipient.owner, recipient.auditInfo, some disclosure, some (outputInfo recipient)⟩)
    recipients disclosures

/-- The slots of recipients that have ids can be filtered. -/
theorem Recipient.Resolve.exists_slots {recipients : List Recipient} (resolve : Resolve lookup recipients)
    (outputInfo : Recipient → Bytes) (disclosures : List Bytes) :
    ∃ slots, List.Forall₂ (SlotSource.Becomes lookup ids)
      (slotSources outputInfo recipients disclosures) slots := by
  refine exists_forall₂_iff.mpr (forall_mem_zipWith.mpr fun i recipient disclosure listed _ => ?_)
  obtain ⟨id, told⟩ := resolve recipient (List.mem_of_getElem? listed)
  exact SlotSource.exists_becomes ⟨_, rfl, told⟩ rfl rfl

/-- Where something is disclosed for a slot, the slot is kept exactly if it is not empty. -/
theorem SlotSource.Becomes.kept_iff_ne_nil {source : SlotSource} {slot : Slot}
    (h : source.Becomes lookup ids slot) (full : source.outputMetadata ≠ some []) :
    slot.kept = true ↔ slot.outputMetadata ≠ [] := by
  cases h with
  | kept _ _ _ disclosed _ =>
    exact iff_of_true rfl fun empty => full (disclosed.trans (congrArg some empty))
  | blank => exact iff_of_false nofun (absurd rfl)

/-- Where something is disclosed for every slot, some slot is kept exactly if one is not empty. -/
theorem SlotSource.any_kept_iff {sources : List SlotSource} {slots : List Slot}
    (become : List.Forall₂ (SlotSource.Becomes lookup ids) sources slots)
    (full : ∀ source ∈ sources, source.outputMetadata ≠ some []) :
    slots.any Slot.kept = true ↔ ∃ bytes ∈ slots.map Slot.outputMetadata, bytes ≠ [] := by
  simp only [List.any_eq_true, List.mem_map, exists_exists_and_eq_and]
  refine exists_congr fun slot => and_congr_right fun listed => ?_
  obtain ⟨source, listed', becomes⟩ := exists_mem_of_forall₂ become listed
  exact becomes.kept_iff_ne_nil (full source listed')

end

namespace TellsOutputs

variable {P : Type} [PointGroup P] {lookup : EnrollmentLookup} {ids : List String} {g : Generators P}
  {tokenType : String} {recipients : List Recipient} {draws : Draws} {issuer : Option Identity}
  {outputs : List (Token P)} {disclosures : List Bytes} {outputInfo : Recipient → Bytes}
  {slots : List Slot}
  (tells : TellsOutputs g recipients (Recipient.openings tokenType recipients draws) issuer outputs
    disclosures)
include tells

/-- No disclosure of an assembled action is empty. -/
theorem outputMetadata_ne_nil :
    ∀ source ∈ Recipient.slotSources outputInfo recipients disclosures,
      source.outputMetadata ≠ some [] := by
  refine forall_mem_zipWith.mpr fun i _ disclosure _ disclosed empty => ?_
  have bound : i < outputs.length :=
    tells.length_disclosures ▸ (List.getElem?_eq_some_iff.mp disclosed).1
  exact (tells.openedBy (List.getElem?_eq_getElem bound) disclosed).ne_nil (Option.some.inj empty)

/-- What is disclosed in the place of a recipient is the output in that place. -/
theorem toldIn {i : Nat} {recipient : Recipient} {output : Token P} {disclosure : Bytes}
    (listed : recipients[i]? = some recipient) (there : outputs[i]? = some output)
    (disclosed : disclosures[i]? = some disclosure) :
    recipient.ToldIn g tokenType issuer output disclosure := by
  obtain ⟨opening, opens, read, committed⟩ := tells.exists_opening there disclosed
  obtain ⟨recipient', blinding, listed', -, rfl⟩ := List.getElem?_zipWith_eq_some.mp opens
  cases listed.symm.trans listed'
  exact ⟨_, read, decide_eq_true committed, rfl, rfl⟩

/-- The slots that the disclosures of an assembled action become are shown to the recipients. -/
theorem shownOwn (become : List.Forall₂ (SlotSource.Becomes lookup ids)
      (Recipient.slotSources outputInfo recipients disclosures) slots) :
    Recipient.ShownOwn lookup ids g tokenType issuer recipients outputs
      (slots.map Slot.outputMetadata) where
  eachOutput := tells.length_outputs
  eachSlot := by
    rw [List.length_map, ← become.length_eq, Recipient.slotSources, List.length_zipWith,
      tells.length_disclosures, tells.length_outputs, Nat.min_self]
  shown i recipient output slot listed there held := by
    have bound : i < disclosures.length :=
      tells.length_disclosures ▸ (List.getElem?_eq_some_iff.mp there).1
    have disclosed := List.getElem?_eq_getElem bound
    obtain ⟨receiver, id, named, found, shown⟩ := SlotSource.exists_shown become
      (List.getElem?_zipWith_eq_some.mpr ⟨_, _, listed, disclosed, rfl⟩) rfl
    cases named
    obtain rfl : slot = if id ∈ ids then disclosures[i] else [] :=
      Option.some.inj (held.symm.trans shown)
    exact (tells.toldIn listed there disclosed).shownIn found

end TellsOutputs

/-! ## Entries -/

section

variable {P : Type} [Suite P] {pp : PublicParameters P} {recipients : List Recipient} {draws : Draws}
  {tokenType : String}

/-- The lists in the metadata of an assembled issue are in step. -/
theorem IssueAction.Assembled.slotSources_eq {issuer : Identity} {action : IssueAction P}
    {metadata : IssueMetadata}
    (assembled : Assembled pp issuer tokenType recipients draws action metadata) :
    metadata.slotSources =
      Recipient.slotSources (fun _ => []) recipients metadata.outputsMetadata := by
  have lengths := assembled.tells.length_disclosures.trans assembled.tells.length_outputs
  rw [assembled.metadata_eq]
  refine List.ext_getElem ?_ fun i here _ => ?_
  · simp [Recipient.slotSources, lengths]
  · have bound : i < recipients.length := by simpa using here
    simp [IssueMetadata.slotSources, Recipient.slotSources, List.getElem?_eq_getElem bound]

/-- The lists in the metadata of an assembled transfer are in step. -/
theorem TransferAction.Assembled.slotSources_eq {inputs : List (OwnedToken P)}
    {action : TransferAction P} {metadata : TransferMetadata}
    (assembled : Assembled pp inputs recipients draws tokenType action metadata) :
    metadata.slotSources =
      Recipient.slotSources Recipient.auditInfo recipients metadata.outputsMetadata := by
  have lengths := assembled.tells.length_disclosures.trans assembled.tells.length_outputs
  rw [assembled.metadata_eq]
  refine List.ext_getElem ?_ fun i here _ => ?_
  · simp [Recipient.slotSources, lengths]
  · have bound : i < recipients.length := by simpa using here
    simp [TransferMetadata.slotSources, Recipient.slotSources, List.getElem?_eq_getElem bound]

end

section

variable {P : Type} [Suite P] {lookup : EnrollmentLookup} {ids : List String}

/-- Metadata of an issue that was made to some order whose recipients have ids. -/
def IssueMetadata.FromOrder (P : Type) [Suite P] (lookup : EnrollmentLookup) (m : IssueMetadata) : Prop :=
  ∃ (pp : PublicParameters P) (order : IssueOrder) (action : IssueAction P),
    order.assemble pp = .ok (action, m) ∧ Recipient.Resolve lookup order.recipients

/-- Metadata of a transfer that was made to some order whose recipients have ids. -/
def TransferMetadata.FromOrder (P : Type) [Suite P] (lookup : EnrollmentLookup) (m : TransferMetadata) :
    Prop :=
  ∃ (pp : PublicParameters P) (order : TransferOrder P) (action : TransferAction P),
    order.assemble pp = .ok (action, m) ∧ Recipient.Resolve lookup order.recipients

/-- Metadata that was made to an order can be filtered. -/
theorem IssueMetadata.FromOrder.exists_filtered {m : IssueMetadata} (made : m.FromOrder P lookup) :
    ∃ filtered, m.FilteredTo lookup ids filtered := by
  obtain ⟨pp, order, action, made, resolve⟩ := made
  have assembled := IssueAction.assemble_eq_ok_iff.mp made
  obtain ⟨slots, become⟩ := resolve.exists_slots (fun _ => []) m.outputsMetadata
  exact ⟨_, slots, assembled.slotSources_eq ▸ become, rfl⟩

/-- Metadata that was made to an order can be filtered. -/
theorem TransferMetadata.FromOrder.exists_filtered {m : TransferMetadata}
    (made : m.FromOrder P lookup) : ∃ filtered, m.FilteredTo lookup ids filtered := by
  obtain ⟨pp, order, action, made, resolve⟩ := made
  have assembled := TransferOrder.assembled made
  obtain ⟨slots, become⟩ := resolve.exists_slots Recipient.auditInfo m.outputsMetadata
  refine ⟨_, slots, assembled.slotSources_eq ▸ become, fun _ => ?_, rfl⟩
  rw [assembled.metadata_eq, List.length_map, List.length_map]

/-- What metadata of an issue is filtered to shows each recipient its own output, to whatever order the
metadata was made. -/
def IssueMetadata.ShowsOwn (P : Type) [Suite P] (lookup : EnrollmentLookup) (ids : List String)
    (m filtered : IssueMetadata) : Prop :=
  ∀ (pp : PublicParameters P) (order : IssueOrder) (action : IssueAction P),
    order.assemble pp = .ok (action, m) →
    Recipient.ShownOwn lookup ids pp.generators order.tokenType (some order.issuer) order.recipients
      action.outputs filtered.outputsMetadata

/-- The senders of a transfer are told if some slot is kept; then they are all told, with their audit
infos. -/
structure TransferMetadata.TellsSenders (m filtered : TransferMetadata) : Prop where
  some_iff : filtered.senders ≠ [] ↔ ∃ slot ∈ filtered.outputsMetadata, slot ≠ []
  all : filtered.senders ≠ [] →
    filtered.senders = m.senders ∧ filtered.senderAuditInfos = m.senderAuditInfos
  none : filtered.senders = [] → filtered.senderAuditInfos = []

/-- What metadata of a transfer is filtered to shows each recipient its own output, to whatever order the
metadata was made, and the senders to those who receive something. -/
def TransferMetadata.ShowsOwn (P : Type) [Suite P] (lookup : EnrollmentLookup) (ids : List String)
    (m filtered : TransferMetadata) : Prop :=
  ∀ (pp : PublicParameters P) (order : TransferOrder P) (action : TransferAction P),
    order.assemble pp = .ok (action, m) →
    Recipient.ShownOwn lookup ids pp.generators order.tokenType none order.recipients action.outputs
      filtered.outputsMetadata ∧ m.TellsSenders filtered

/-- Filtered metadata of an issue shows each recipient its own output. -/
theorem IssueMetadata.FilteredTo.showsOwn {m filtered : IssueMetadata}
    (made : m.FilteredTo lookup ids filtered) : m.ShowsOwn P lookup ids filtered := by
  intro pp order action assembled
  have assembled := IssueAction.assemble_eq_ok_iff.mp assembled
  obtain ⟨slots, become, rfl⟩ := made
  rw [assembled.slotSources_eq] at become
  exact assembled.tells.shownOwn become

/-- With new slots metadata of a transfer tells the senders if one of the slots is not empty. -/
theorem TransferMetadata.tellsSenders_withSlots {m : TransferMetadata} {slots : List Slot}
    (some : m.senders ≠ []) (paired : m.senderAuditInfos.length = m.senders.length)
    (kept : slots.any Slot.kept = true ↔ ∃ bytes ∈ slots.map Slot.outputMetadata, bytes ≠ []) :
    m.TellsSenders (m.withSlots slots) := by
  have infos : m.senderAuditInfos.take m.senders.length = m.senderAuditInfos :=
    List.take_of_length_le paired.le
  by_cases told : slots.any Slot.kept = true
  · have senders : (m.withSlots slots).senders = m.senders := by simp [withSlots, told]
    refine ⟨?_, fun _ => ⟨senders, by simp [withSlots, told, infos]⟩, fun none => ?_⟩
    · exact iff_of_true (senders ▸ some) (kept.mp told)
    · exact absurd (senders.symm.trans none) some
  · have senders : (m.withSlots slots).senders = [] := by simp [withSlots, told]
    refine ⟨?_, fun some => absurd senders some, fun _ => by simp [withSlots, told]⟩
    exact iff_of_false (not_not.mpr senders) (mt kept.mpr told)

/-- Filtered metadata of a transfer shows each recipient its own output, and the senders to those who
receive something. -/
theorem TransferMetadata.FilteredTo.showsOwn {m filtered : TransferMetadata}
    (made : m.FilteredTo lookup ids filtered) : m.ShowsOwn P lookup ids filtered := by
  intro pp order action assembled
  have assembled := TransferOrder.assembled assembled
  obtain ⟨slots, become, -, rfl⟩ := made
  rw [assembled.slotSources_eq] at become
  refine ⟨assembled.tells.shownOwn become, tellsSenders_withSlots ?_ ?_ ?_⟩
  · rw [assembled.metadata_eq]
    exact mt List.map_eq_nil_iff.mp assembled.some
  · rw [assembled.metadata_eq, List.length_map, List.length_map]
  · exact SlotSource.any_kept_iff become assembled.tells.outputMetadata_ne_nil

/-- Metadata whose entries were made to orders can be filtered by any ids, among other entries that can be
filtered by these. The recipients of each entry are then shown their own outputs, and nothing of others. -/
theorem Metadata.filterBy_shows_recipients {source : RequestMetadata}
    (issues : ∀ m ∈ source.issues,
      m.FromOrder P lookup ∨ ∃ filtered, m.FilteredTo lookup ids filtered)
    (transfers : ∀ m ∈ source.transfers,
      m.FromOrder P lookup ∨ ∃ filtered, m.FilteredTo lookup ids filtered) :
    ∃ filtered,
      (∀ log records, ((filterBy lookup log ids source).perform records).1 = .ok filtered) ∧
      List.Forall₂ (IssueMetadata.ShowsOwn P lookup ids) source.issues filtered.issues ∧
      List.Forall₂ (TransferMetadata.ShowsOwn P lookup ids) source.transfers filtered.transfers := by
  obtain ⟨filteredIssues, madeIssues⟩ : ∃ filtered,
      List.Forall₂ (IssueMetadata.FilteredTo lookup ids) source.issues filtered :=
    exists_forall₂_iff.mpr fun m listed =>
      (issues m listed).elim (fun made => made.exists_filtered) id
  obtain ⟨filteredTransfers, madeTransfers⟩ : ∃ filtered,
      List.Forall₂ (TransferMetadata.FilteredTo lookup ids) source.transfers filtered :=
    exists_forall₂_iff.mpr fun m listed =>
      (transfers m listed).elim (fun made => made.exists_filtered) id
  exact ⟨⟨filteredIssues, filteredTransfers, source.application⟩,
    fun _ _ => filterBy_eq_ok_iff.mpr ⟨madeIssues, madeTransfers, rfl⟩,
    madeIssues.imp fun _ _ made => made.showsOwn, madeTransfers.imp fun _ _ made => made.showsOwn⟩

end

namespace Plain

/-- The recipient of the swap is shown what is issued to it and what is locked in the swap, but neither
what the sender keeps nor what is redeemed. -/
theorem orders_shown : ∃ (issue : IssueAction Plain) (issueMetadata : IssueMetadata)
    (split : TransferAction Plain) (splitMetadata : TransferMetadata) (filtered : RequestMetadata),
    issueOrder.assemble governed = .ok (issue, issueMetadata) ∧
    splitOrder.assemble governed = .ok (split, splitMetadata) ∧
    (∀ log records, ((Metadata.filterBy Identity.enrollmentId log ["bob"]
      ⟨[issueMetadata], [splitMetadata], .empty⟩).perform records).1 = .ok filtered) ∧
    (filtered.issues.map fun m => m.outputsMetadata.map List.isEmpty) = [[false]] ∧
    (filtered.transfers.map fun m => m.outputsMetadata.map List.isEmpty) = [[false, true, true]] := by
  obtain ⟨issue, issueMetadata, issued⟩ := exists_assemble_issueOrder
  obtain ⟨split, splitMetadata, made⟩ := exists_assemble_splitOrder
  have isBob : recipient.identity.enrollmentId recipient.auditInfo = .ok "bob" :=
    enrollmentId_recipient (by decide)
  have issueTold : List.Forall₂ (fun r id => Identity.enrollmentId r.owner r.auditInfo = .ok id)
      issueOrder.recipients ["bob"] := .cons isBob .nil
  have splitTold : List.Forall₂ (fun r id => Identity.enrollmentId r.owner r.auditInfo = .ok id)
      splitOrder.recipients ["bob", "alice", ""] :=
    .cons (enrollmentId_locked.trans isBob)
      (.cons enrollmentId_sender (.cons (Identity.enrollmentId_nil _) .nil))
  obtain ⟨filtered, success, issues, transfers⟩ := @Metadata.filterBy_shows_recipients Plain _
    Identity.enrollmentId ["bob"] ⟨[issueMetadata], [splitMetadata], .empty⟩
    (List.forall_mem_singleton.mpr
      (.inl ⟨governed, issueOrder, issue, issued, exists_forall₂_iff.mp ⟨_, issueTold⟩⟩))
    (List.forall_mem_singleton.mpr
      (.inl ⟨governed, splitOrder, split, made, exists_forall₂_iff.mp ⟨_, splitTold⟩⟩))
  refine ⟨issue, issueMetadata, split, splitMetadata, filtered, issued, made, success, ?_, ?_⟩
  · obtain ⟨shownIssue, _, shows, ⟨⟩, eq⟩ := List.forall₂_cons_left_iff.mp issues
    rw [eq]
    exact congrArg (fun slots => [slots]) ((shows _ _ _ issued).map_isEmpty issueTold)
  · obtain ⟨shownSplit, _, shows, ⟨⟩, eq⟩ := List.forall₂_cons_left_iff.mp transfers
    rw [eq]
    exact congrArg (fun slots => [slots]) ((shows _ _ _ made).1.map_isEmpty splitTold)

end Plain

end ConfidentialToken
