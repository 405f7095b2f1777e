import ConfidentialToken.Metadata.Filter
import ConfidentialToken.Proofs.Audit.Enrollment
import ConfidentialToken.Proofs.Suite.Requests

/-!
# What filtering gives

Filtering goes over parallel lists slot by slot. Here the lists of an entry are taken together, so that
there is one record of what metadata has for each slot (`SlotSource`), and a slot is related to what it
becomes (`SlotSource.Becomes`). Filtering succeeds exactly with the metadata whose slots are so related
(`Metadata.filterBy_eq_ok_iff`), and what is said of it elsewhere is derived from what becomes of one
slot. Reports are left out.
-/

namespace ConfidentialToken

open Metadata (Slot)

/-! ## Slots -/

/-- What metadata has for one output. Only the audit info of the receiver is sure to be there, since it
is these audit infos that filtering goes over. -/
structure SlotSource where
  receiver : Option Identity
  receiverAuditInfo : Bytes
  outputMetadata : Option Bytes
  outputAuditInfo : Option Bytes

/-- The audit info of the receiver tells an enrollment id. -/
def SlotSource.Resolves (lookup : EnrollmentLookup) (source : SlotSource) (id : String) : Prop :=
  ∃ receiver, source.receiver = some receiver ∧ lookup receiver source.receiverAuditInfo = .ok id

/-- What a slot becomes: it stays as it is if the receiver has one of the ids, and then everything must
be there; else nothing but the receiver is left of it. -/
inductive SlotSource.Becomes (lookup : EnrollmentLookup) (ids : List String) (source : SlotSource) :
    Slot → Prop
  | kept {receiver : Identity} {id : String} {metadata info : Bytes} :
    source.receiver = some receiver → lookup receiver source.receiverAuditInfo = .ok id → id ∈ ids →
    source.outputMetadata = some metadata → source.outputAuditInfo = some info →
    Becomes lookup ids source ⟨receiver, true, metadata, info, source.receiverAuditInfo⟩
  | blank {receiver : Identity} {id : String} :
    source.receiver = some receiver → lookup receiver source.receiverAuditInfo = .ok id → id ∉ ids →
    Becomes lookup ids source (.blank receiver)

variable {lookup : EnrollmentLookup} {ids : List String}

theorem SlotSource.becomes_iff {source : SlotSource} {slot : Slot} :
    source.Becomes lookup ids slot ↔ ∃ receiver id, source.receiver = some receiver ∧
      lookup receiver source.receiverAuditInfo = .ok id ∧
      if id ∈ ids then ∃ metadata info, source.outputMetadata = some metadata ∧
        source.outputAuditInfo = some info ∧
        ⟨receiver, true, metadata, info, source.receiverAuditInfo⟩ = slot
      else .blank receiver = slot := by
  constructor
  · rintro (⟨named, told, wanted, disclosed, informed⟩ | ⟨named, told, unwanted⟩)
    · exact ⟨_, _, named, told, by rw [if_pos wanted]; exact ⟨_, _, disclosed, informed, rfl⟩⟩
    · exact ⟨_, _, named, told, by rw [if_neg unwanted]⟩
  · rintro ⟨receiver, id, named, told, made⟩
    by_cases wanted : id ∈ ids
    · rw [if_pos wanted] at made
      obtain ⟨metadata, info, disclosed, informed, rfl⟩ := made
      exact .kept named told wanted disclosed informed
    · rw [if_neg wanted] at made
      exact made ▸ .blank named told wanted

/-- What a slot holds after it was filtered, to be filtered again. -/
def Metadata.Slot.source (slot : Slot) : SlotSource :=
  ⟨some slot.receiver, slot.receiverAuditInfo, some slot.outputMetadata, some slot.outputAuditInfo⟩

/-- A slot becomes one thing only. -/
theorem SlotSource.Becomes.unique {source : SlotSource} {slot slot' : Slot}
    (h : source.Becomes lookup ids slot) (h' : source.Becomes lookup ids slot') : slot = slot' := by
  cases h with
  | kept named told wanted disclosed informed =>
    cases h' with
    | kept named' _ _ disclosed' informed' =>
      cases named.symm.trans named'
      cases disclosed.symm.trans disclosed'
      cases informed.symm.trans informed'
      rfl
    | blank named' told' unwanted =>
      cases named.symm.trans named'
      cases told.symm.trans told'
      exact absurd wanted unwanted
  | blank named told unwanted =>
    cases h' with
    | kept named' told' wanted _ _ =>
      cases named.symm.trans named'
      cases told.symm.trans told'
      exact absurd wanted unwanted
    | blank named' _ _ =>
      cases named.symm.trans named'
      rfl

/-- A slot is kept when its receiver has one of the ids. -/
theorem SlotSource.Becomes.kept_iff {source : SlotSource} {slot : Slot}
    (h : source.Becomes lookup ids slot) : slot.kept = true ↔ ∃ id ∈ ids, source.Resolves lookup id := by
  cases h with
  | kept named told wanted _ _ => exact iff_of_true rfl ⟨_, wanted, _, named, told⟩
  | blank named told unwanted =>
    refine iff_of_false nofun ?_
    rintro ⟨id', wanted, receiver', named', told'⟩
    cases named.symm.trans named'
    cases told.symm.trans told'
    exact unwanted wanted

/-- A slot becomes something when its receiver has an id and, if this is wanted, nothing is missing. -/
theorem SlotSource.exists_becomes {source : SlotSource} {id : String} {metadata info : Bytes}
    (resolves : source.Resolves lookup id)
    (disclosed : source.outputMetadata = some metadata) (informed : source.outputAuditInfo = some info) :
    ∃ slot, source.Becomes lookup ids slot := by
  obtain ⟨receiver, named, told⟩ := resolves
  by_cases wanted : id ∈ ids
  · exact ⟨_, .kept named told wanted disclosed informed⟩
  · exact ⟨_, .blank named told wanted⟩

/-- A slot holds what was disclosed for it, or nothing. -/
theorem SlotSource.Becomes.outputMetadata_eq {source : SlotSource} {slot : Slot}
    (h : source.Becomes lookup ids slot) :
    source.outputMetadata = some slot.outputMetadata ∨ slot.outputMetadata = [] := by
  cases h with
  | kept _ _ _ disclosed _ => exact .inl disclosed
  | blank => exact .inr rfl

/-! ## Entries -/

/-- What the metadata of an issue has for its slots. There are no audit infos of outputs. -/
def IssueMetadata.slotSources (m : IssueMetadata) : List SlotSource :=
  m.receiverAuditInfos.mapIdx fun i info => ⟨m.receivers[i]?, info, m.outputsMetadata[i]?, some []⟩

/-- What the metadata of a transfer has for its slots. -/
def TransferMetadata.slotSources (m : TransferMetadata) : List SlotSource :=
  m.receiverAuditInfos.mapIdx fun i info =>
    ⟨m.receivers[i]?, info, m.outputsMetadata[i]?, m.outputAuditInfos[i]?⟩

@[simp] theorem IssueMetadata.length_slotSources (m : IssueMetadata) :
    m.slotSources.length = m.receiverAuditInfos.length :=
  List.length_mapIdx

@[simp] theorem TransferMetadata.length_slotSources (m : TransferMetadata) :
    m.slotSources.length = m.receiverAuditInfos.length :=
  List.length_mapIdx

theorem IssueMetadata.slotSources_getElem?_eq_some_iff {m : IssueMetadata} {i : Nat}
    {source : SlotSource} : m.slotSources[i]? = some source ↔ ∃ info,
      m.receiverAuditInfos[i]? = some info ∧
      ⟨m.receivers[i]?, info, m.outputsMetadata[i]?, some []⟩ = source := by
  simp [slotSources, List.getElem?_mapIdx]

theorem TransferMetadata.slotSources_getElem?_eq_some_iff {m : TransferMetadata} {i : Nat}
    {source : SlotSource} : m.slotSources[i]? = some source ↔ ∃ info,
      m.receiverAuditInfos[i]? = some info ∧
      ⟨m.receivers[i]?, info, m.outputsMetadata[i]?, m.outputAuditInfos[i]?⟩ = source := by
  simp [slotSources, List.getElem?_mapIdx]

/-- The metadata of an issue with other slots. -/
def IssueMetadata.withSlots (m : IssueMetadata) (slots : List Slot) : IssueMetadata :=
  { m with
    outputsMetadata := slots.map Slot.outputMetadata
    receivers := slots.map Slot.receiver
    receiverAuditInfos := slots.map Slot.receiverAuditInfo }

/-- The metadata of a transfer with other slots. The senders stay if a slot is kept, and the ids of the
spent tokens do not. -/
def TransferMetadata.withSlots (m : TransferMetadata) (slots : List Slot) : TransferMetadata where
  tokenIds := []
  senders := if slots.any Slot.kept then m.senders else []
  senderAuditInfos :=
    if slots.any Slot.kept then m.senderAuditInfos.take m.senders.length else []
  outputsMetadata := slots.map Slot.outputMetadata
  outputAuditInfos := slots.map Slot.outputAuditInfo
  receivers := slots.map Slot.receiver
  receiverAuditInfos := slots.map Slot.receiverAuditInfo
  extraSigners := m.extraSigners

/-- The metadata of an issue is filtered to other metadata, slot by slot. -/
def IssueMetadata.FilteredTo (lookup : EnrollmentLookup) (ids : List String)
    (m filtered : IssueMetadata) : Prop :=
  ∃ slots, List.Forall₂ (SlotSource.Becomes lookup ids) m.slotSources slots ∧
    m.withSlots slots = filtered

/-- The metadata of a transfer is filtered to other metadata, slot by slot. If a slot is kept, there
must be audit info for every sender. -/
def TransferMetadata.FilteredTo (lookup : EnrollmentLookup) (ids : List String)
    (m filtered : TransferMetadata) : Prop :=
  ∃ slots, List.Forall₂ (SlotSource.Becomes lookup ids) m.slotSources slots ∧
    (slots.any Slot.kept = true → m.senders.length ≤ m.senderAuditInfos.length) ∧
    m.withSlots slots = filtered

/-- The metadata of a request is filtered to other metadata, entry by entry. -/
structure RequestMetadata.FilteredTo (lookup : EnrollmentLookup) (ids : List String)
    (m filtered : RequestMetadata) : Prop where
  issues : List.Forall₂ (IssueMetadata.FilteredTo lookup ids) m.issues filtered.issues
  transfers : List.Forall₂ (TransferMetadata.FilteredTo lookup ids) m.transfers filtered.transfers
  application : m.application = filtered.application

/-- The metadata of one issue is filtered by itself. -/
theorem IssueMetadata.FilteredTo.alone {m filtered : IssueMetadata}
    {application : SortedMap String Bytes} (made : m.FilteredTo lookup ids filtered) :
    RequestMetadata.FilteredTo lookup ids ⟨[m], [], application⟩ ⟨[filtered], [], application⟩ :=
  ⟨.cons made .nil, .nil, rfl⟩

/-- The metadata of one transfer is filtered by itself. -/
theorem TransferMetadata.FilteredTo.alone {m filtered : TransferMetadata}
    {application : SortedMap String Bytes} (made : m.FilteredTo lookup ids filtered) :
    RequestMetadata.FilteredTo lookup ids ⟨[], [m], application⟩ ⟨[], [filtered], application⟩ :=
  ⟨.nil, .cons made .nil, rfl⟩

/-! ## Filtering -/

namespace Metadata

variable {log : Logger}

theorem slot_eq_ok_iff {slots : List Bytes} {index : Nat} {what : String} {bytes : Bytes} :
    slot slots index what = .ok bytes ↔ slots[index]? = some bytes := by
  unfold slot
  cases slots[index]? with
  | none => simp
  | some held => simp

theorem receiverAt_eq_ok_iff {what : String} {receivers : List Identity} {index : Nat}
    {info : Bytes} {receiver : Identity} {id : String} :
    receiverAt lookup what receivers index info = .ok (receiver, id) ↔
      receivers[index]? = some receiver ∧ lookup receiver info = .ok id := by
  unfold receiverAt
  cases receivers[index]? with
  | none => exact ⟨nofun, nofun⟩
  | some named =>
    simp only [Outcome.bind_eq_ok_iff, Outcome.inContext_eq_ok_iff, Option.some.injEq]
    constructor
    · rintro ⟨_, ⟨⟩, _, told, ⟨⟩⟩
      exact ⟨rfl, told⟩
    · rintro ⟨rfl, told⟩
      exact ⟨named, rfl, id, told, rfl⟩

/-- A slot is filtered by looking up the receiver's id and going on with what the id asks for. -/
theorem yields_slot (source : SlotSource) {receivers : List Identity} {index : Nat} {what : String}
    {next : Identity × String → Logged Slot} (named : source.receiver = receivers[index]?)
    (kept : ∀ receiver id, id ∈ ids → (next (receiver, id)).Yields fun slot => ∃ metadata info,
      source.outputMetadata = some metadata ∧ source.outputAuditInfo = some info ∧
      ⟨receiver, true, metadata, info, source.receiverAuditInfo⟩ = slot)
    (blank : ∀ receiver id, id ∉ ids → (next (receiver, id)).Yields (.blank receiver = ·)) :
    Task.Yields (liftM (receiverAt lookup what receivers index source.receiverAuditInfo) >>= next)
      (source.Becomes lookup ids) := by
  refine ((Task.Yields.lift _).bind (Q := fun found slot =>
    if found.2 ∈ ids then ∃ metadata info, source.outputMetadata = some metadata ∧
      source.outputAuditInfo = some info ∧
      ⟨found.1, true, metadata, info, source.receiverAuditInfo⟩ = slot
    else .blank found.1 = slot) ?_).congr fun slot => ?_
  · rintro ⟨receiver, id⟩ -
    by_cases wanted : id ∈ ids
    · simpa only [wanted, ↓reduceIte] using kept receiver id wanted
    · simpa only [wanted, ↓reduceIte] using blank receiver id wanted
  · simp only [Prod.exists, receiverAt_eq_ok_iff, ← named, SlotSource.becomes_iff, and_assoc]

theorem yields_filterIssueSlot (m : IssueMetadata) (index : Nat) (info : Bytes) :
    (filterIssueSlot lookup log ids m index info).Yields
      (SlotSource.Becomes lookup ids ⟨m.receivers[index]?, info, m.outputsMetadata[index]?, some []⟩) := by
  unfold filterIssueSlot
  refine yields_slot ⟨_, info, _, _⟩ rfl (fun receiver id wanted => ?_) fun receiver id unwanted => ?_
  · simp only [wanted, ↓reduceIte]
    refine ((Task.Yields.lift _).bind fun metadata _ => .pure _).congr fun made => ?_
    simp [slot_eq_ok_iff]
  · simp only [unwanted, ↓reduceIte]
    exact ((Task.Yields.debug log _).bind fun _ _ => .pure _).congr fun made => by simp

theorem yields_filterTransferSlot (m : TransferMetadata) (index : Nat) (info : Bytes) :
    (filterTransferSlot lookup log ids m index info).Yields
      (SlotSource.Becomes lookup ids
        ⟨m.receivers[index]?, info, m.outputsMetadata[index]?, m.outputAuditInfos[index]?⟩) := by
  unfold filterTransferSlot
  refine yields_slot ⟨_, info, _, _⟩ rfl (fun receiver id wanted => ?_) fun receiver id unwanted => ?_
  · simp only [wanted, ↓reduceIte]
    refine ((Task.Yields.debug log _).bind fun _ _ => (Task.Yields.lift _).bind fun metadata _ =>
      (Task.Yields.lift _).bind fun outputInfo _ => .pure _).congr fun made => ?_
    simp [slot_eq_ok_iff]
  · simp only [unwanted, ↓reduceIte]
    exact ((Task.Yields.debug log _).bind fun _ _ => .pure _).congr fun made => by simp

/-- Filtering all slots relates what metadata has for each to what it becomes. -/
theorem yields_slots {f : Nat → Bytes → Logged Slot} {source : Nat → Bytes → SlotSource}
    (infos : List Bytes)
    (each : ∀ i info, (f i info).Yields ((source i info).Becomes lookup ids)) :
    ((withPositions infos).mapM fun (i, info) => f i info).Yields
      (List.Forall₂ (SlotSource.Becomes lookup ids) (infos.mapIdx source)) := by
  refine (Task.Yields.mapM (Q := fun (i, info) => (source i info).Becomes lookup ids)
    fun (i, info) => each i info).congr fun slots => ?_
  rw [mapIdx_eq_map_withPositions, List.forall₂_map_left_iff]

theorem yields_filterIssue {m : IssueMetadata} :
    (filterIssue lookup log ids m).Yields (m.FilteredTo lookup ids) := by
  have slots := yields_slots (f := filterIssueSlot lookup log ids m) m.receiverAuditInfos
    (yields_filterIssueSlot m)
  exact slots.bind fun slots _ => .pure (m.withSlots slots)

/-- There is audit info for all senders when there is as much of it as there are senders. -/
theorem senderAuditInfos_eq_ok_iff {m : TransferMetadata} {infos : List Bytes} :
    senderAuditInfos m = .ok infos ↔ m.senders.length ≤ m.senderAuditInfos.length ∧
      m.senderAuditInfos.take m.senders.length = infos := by
  unfold senderAuditInfos
  simp only [Outcome.mapM_eq_ok_iff, slot_eq_ok_iff]
  exact forall₂_range_getElem?_iff _

theorem yields_filterTransfer {m : TransferMetadata} :
    (filterTransfer lookup log ids m).Yields (m.FilteredTo lookup ids) := by
  have slots := yields_slots (f := filterTransferSlot lookup log ids m) m.receiverAuditInfos
    (yields_filterTransferSlot m)
  refine slots.bind (Q := fun slots made =>
    (slots.any Slot.kept = true → m.senders.length ≤ m.senderAuditInfos.length) ∧
      m.withSlots slots = made) fun slots _ => ?_
  cases told : slots.any Slot.kept with
  | true =>
    refine ((Task.Yields.lift _).bind fun infos _ => (Task.Yields.debug log _).bind fun _ _ =>
      .pure _).congr fun made => ?_
    simp [senderAuditInfos_eq_ok_iff, TransferMetadata.withSlots, told]
  | false =>
    refine ((Task.Yields.pure []).bind fun infos _ => (Task.Yields.debug log _).bind fun _ _ =>
      .pure _).congr fun made => ?_
    simp [TransferMetadata.withSlots, told]

theorem yields_filterBy {source : RequestMetadata} :
    (filterBy lookup log ids source).Yields (source.FilteredTo lookup ids) := by
  unfold filterBy
  refine ((Task.Yields.mapM fun _ => yields_filterIssue).bind fun issues _ =>
    (Task.Yields.mapM fun _ => yields_filterTransfer).bind fun transfers _ =>
      (Task.Yields.debug log _).bind fun _ _ => .pure _).congr fun filtered => ?_
  constructor
  · rintro ⟨issues, isIssues, transfers, isTransfers, _, _, rfl⟩
    exact ⟨isIssues, isTransfers, rfl⟩
  · rintro ⟨issues, transfers, application⟩
    exact ⟨_, issues, _, transfers, (), trivial, application ▸ rfl⟩

/-- Filtering gives exactly the metadata that the source is filtered to, whatever was reported before. -/
theorem filterBy_eq_ok_iff {source filtered : RequestMetadata} {records : List LogRecord} :
    ((filterBy lookup log ids source).perform records).1 = .ok filtered ↔
      source.FilteredTo lookup ids filtered :=
  yields_filterBy records filtered

end Metadata

/-! ## A payment -/

namespace Plain

theorem enrollmentId_sender : sender.identity.enrollmentId sender.auditInfo = .ok "alice" :=
  Credential.enrollmentId_x509 (by decide) (by decide) rawSender_fits

/-- What the recipient tells about itself, with some revocation handle. -/
def recipientInfo (handle : Bytes) : Bytes :=
  (Credential.x509 Plain "bob" (.ofNat 32 1) handle).auditInfo

theorem enrollmentId_recipient {handle : Bytes} (short : handle.length < Wire.lengthBound) :
    recipient.identity.enrollmentId (recipientInfo handle) = .ok "bob" :=
  Credential.enrollmentId_x509 (by decide) short rawRecipient_fits

/-- The metadata of a request with an issue to both parties, a transfer to both, and a transfer to the
recipient alone; what is disclosed to the recipient, its revocation handle and the spent tokens are left
open. -/
def payment (disclosure handle : Bytes) (spent : TokenId) : RequestMetadata where
  issues := [⟨sender.identity, [], [[1], disclosure], [sender.identity, recipient.identity],
    [sender.auditInfo, recipientInfo handle], []⟩]
  transfers := [
    ⟨[spent], [sender.identity], [sender.auditInfo], [[1], disclosure],
      [sender.auditInfo, recipientInfo handle], [sender.identity, recipient.identity],
      [sender.auditInfo, recipientInfo handle], []⟩,
    ⟨[spent], [recipient.identity], [recipientInfo handle], [disclosure], [recipientInfo handle],
      [recipient.identity], [recipientInfo handle], []⟩]
  application := .empty

/-- What the sender sees of the payment. -/
def paymentShown : RequestMetadata where
  issues := [⟨sender.identity, [], [[1], []], [sender.identity, recipient.identity],
    [sender.auditInfo, []], []⟩]
  transfers := [
    ⟨[], [sender.identity], [sender.auditInfo], [[1], []], [sender.auditInfo, []],
      [sender.identity, recipient.identity], [sender.auditInfo, []], []⟩,
    ⟨[], [], [], [[]], [[]], [recipient.identity], [[]], []⟩]
  application := .empty

/-- Nothing of what was left open is in it. -/
theorem filterBy_payment (disclosure : Bytes) {handle : Bytes} (spent : TokenId)
    (short : handle.length < Wire.lengthBound) :
    ((Metadata.filterBy Identity.enrollmentId .default ["alice"]
      (payment disclosure handle spent)).perform []).1 = .ok paymentShown := by
  have both (metadata info : Bytes) : List.Forall₂ (SlotSource.Becomes Identity.enrollmentId ["alice"])
      [⟨some sender.identity, sender.auditInfo, some [1], some metadata⟩,
        ⟨some recipient.identity, recipientInfo handle, some disclosure, some info⟩]
      [⟨sender.identity, true, [1], metadata, sender.auditInfo⟩, .blank recipient.identity] :=
    .cons (.kept rfl enrollmentId_sender (by decide) rfl rfl)
      (.cons (.blank rfl (enrollmentId_recipient short) (by decide)) .nil)
  have other : List.Forall₂ (SlotSource.Becomes Identity.enrollmentId ["alice"])
      [⟨some recipient.identity, recipientInfo handle, some disclosure, some (recipientInfo handle)⟩]
      [.blank recipient.identity] :=
    .cons (.blank rfl (enrollmentId_recipient short) (by decide)) .nil
  exact Metadata.filterBy_eq_ok_iff.mpr ⟨.cons ⟨_, both [] [], rfl⟩ .nil,
    .cons ⟨_, both sender.auditInfo (recipientInfo handle), fun _ => Nat.le_refl 1, rfl⟩
      (.cons ⟨_, other, nofun, rfl⟩ .nil), rfl⟩

end Plain

end ConfidentialToken
