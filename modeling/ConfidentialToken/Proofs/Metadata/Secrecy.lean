import ConfidentialToken.Proofs.Metadata.Filtering

/-!
# What filtered metadata keeps secret

Two metadata agree for some enrollment ids when they differ only in what their holders must not learn:
the slots of other receivers, the ids of spent tokens, and the senders of transfers of which they receive
nothing. Filtering them gives the same.
-/

namespace ConfidentialToken

open Metadata (Slot)

variable {lookup : EnrollmentLookup} {ids : List String}

/-! ## Agreement -/

/-- Two slots agree when they are the same, or when both belong to a receiver with none of the ids. -/
inductive SlotSource.AgreesFor (lookup : EnrollmentLookup) (ids : List String) :
    SlotSource → SlotSource → Prop
  | same (source : SlotSource) : AgreesFor lookup ids source source
  | foreign {source source' : SlotSource} {id id' : String} : source.receiver = source'.receiver →
    source.Resolves lookup id → id ∉ ids → source'.Resolves lookup id' → id' ∉ ids →
    AgreesFor lookup ids source source'

/-- The metadata of two issues agrees, slot by slot. -/
structure IssueMetadata.AgreesFor (lookup : EnrollmentLookup) (ids : List String)
    (m m' : IssueMetadata) : Prop where
  issuer : m.issuer = m'.issuer
  tokenIds : m.tokenIds = m'.tokenIds
  slots : List.Forall₂ (SlotSource.AgreesFor lookup ids) m.slotSources m'.slotSources
  extraSigners : m.extraSigners = m'.extraSigners

/-- The metadata of two transfers agrees, slot by slot. The senders are compared only if some slot has a
receiver with one of the ids. -/
structure TransferMetadata.AgreesFor (lookup : EnrollmentLookup) (ids : List String)
    (m m' : TransferMetadata) : Prop where
  slots : List.Forall₂ (SlotSource.AgreesFor lookup ids) m.slotSources m'.slotSources
  senders : (∃ source ∈ m.slotSources, ∃ id ∈ ids, source.Resolves lookup id) →
    m.senders = m'.senders ∧ m.senderAuditInfos = m'.senderAuditInfos
  extraSigners : m.extraSigners = m'.extraSigners

/-- The metadata of two requests agrees, entry by entry. -/
structure RequestMetadata.AgreesFor (lookup : EnrollmentLookup) (ids : List String)
    (m m' : RequestMetadata) : Prop where
  issues : List.Forall₂ (IssueMetadata.AgreesFor lookup ids) m.issues m'.issues
  transfers : List.Forall₂ (TransferMetadata.AgreesFor lookup ids) m.transfers m'.transfers
  application : m.application = m'.application

/-! ## Equal results -/

/-- Slots that agree become the same. -/
theorem SlotSource.AgreesFor.slot_eq {source source' : SlotSource} {slot slot' : Slot}
    (agree : source.AgreesFor lookup ids source') (h : source.Becomes lookup ids slot)
    (h' : source'.Becomes lookup ids slot') : slot = slot' := by
  cases agree with
  | same => exact h.unique h'
  | foreign receivers resolves unwanted resolves' unwanted' =>
    obtain ⟨receiver, named, told⟩ := resolves
    obtain ⟨receiver', named', told'⟩ := resolves'
    have sameReceiver : receiver = receiver' :=
      Option.some.inj (named.symm.trans (receivers.trans named'))
    rw [h.unique (.blank named told unwanted), h'.unique (.blank named' told' unwanted'), sameReceiver]

/-- A kept slot comes from one whose receiver has one of the ids. -/
theorem SlotSource.exists_resolves_of_kept {sources : List SlotSource} {slots : List Slot}
    (become : List.Forall₂ (SlotSource.Becomes lookup ids) sources slots)
    (kept : slots.any Slot.kept = true) : ∃ source ∈ sources, ∃ id ∈ ids, source.Resolves lookup id := by
  obtain ⟨slot, mem, kept⟩ := List.any_eq_true.mp kept
  obtain ⟨source, listed, becomes⟩ := exists_mem_of_forall₂ become mem
  exact ⟨source, listed, becomes.kept_iff.mp kept⟩

/-- Issues that agree are filtered to the same. -/
theorem IssueMetadata.AgreesFor.filtered_eq {m m' filtered filtered' : IssueMetadata}
    (agree : m.AgreesFor lookup ids m') (h : m.FilteredTo lookup ids filtered)
    (h' : m'.FilteredTo lookup ids filtered') : filtered = filtered' := by
  obtain ⟨slots, become, rfl⟩ := h
  obtain ⟨slots', become', rfl⟩ := h'
  obtain rfl : slots = slots' :=
    eq_of_forall₂_of_agree agree.slots become become' fun _ _ _ _ agree => agree.slot_eq
  simp only [withSlots, agree.issuer, agree.tokenIds, agree.extraSigners]

/-- Transfers that agree are filtered to the same. -/
theorem TransferMetadata.AgreesFor.filtered_eq {m m' filtered filtered' : TransferMetadata}
    (agree : m.AgreesFor lookup ids m') (h : m.FilteredTo lookup ids filtered)
    (h' : m'.FilteredTo lookup ids filtered') : filtered = filtered' := by
  obtain ⟨slots, become, -, rfl⟩ := h
  obtain ⟨slots', become', -, rfl⟩ := h'
  obtain rfl : slots = slots' :=
    eq_of_forall₂_of_agree agree.slots become become' fun _ _ _ _ agree => agree.slot_eq
  by_cases kept : slots.any Slot.kept = true
  · obtain ⟨senders, infos⟩ := agree.senders (SlotSource.exists_resolves_of_kept become kept)
    simp only [withSlots, senders, infos, agree.extraSigners]
  · simp [withSlots, kept, agree.extraSigners]

/-- From metadata that agrees for the enrollment ids filtering gives the same, when it gives anything.
So the result says nothing of what belongs to others, of the tokens that are spent, and of the senders
of transfers in which no slot is kept. -/
theorem Metadata.filterBy_eq_of_agreesFor {m m' filtered filtered' : RequestMetadata}
    {log log' : Logger} {records records' : List LogRecord} (agree : m.AgreesFor lookup ids m')
    (success : ((filterBy lookup log ids m).perform records).1 = .ok filtered)
    (success' : ((filterBy lookup log' ids m').perform records').1 = .ok filtered') :
    filtered = filtered' := by
  have h := filterBy_eq_ok_iff.mp success
  have h' := filterBy_eq_ok_iff.mp success'
  have issues : filtered.issues = filtered'.issues :=
    eq_of_forall₂_of_agree agree.issues h.issues h'.issues fun _ _ _ _ agree => agree.filtered_eq
  have transfers : filtered.transfers = filtered'.transfers :=
    eq_of_forall₂_of_agree agree.transfers h.transfers h'.transfers
      fun _ _ _ _ agree => agree.filtered_eq
  have application : filtered.application = filtered'.application := by
    rw [← h.application, ← h'.application, agree.application]
  cases filtered
  cases filtered'
  simp only [RequestMetadata.mk.injEq]
  exact ⟨issues, transfers, application⟩

namespace Plain

/-- Payments agree for the sender, whatever they tell the recipient. -/
theorem payment_agreesFor {disclosure disclosure' handle handle' : Bytes} {spent spent' : TokenId}
    (short : handle.length < Wire.lengthBound) (short' : handle'.length < Wire.lengthBound) :
    (payment disclosure handle spent).AgreesFor Identity.enrollmentId ["alice"]
      (payment disclosure' handle' spent') := by
  have foreign (metadata metadata' info info' : Bytes) :
      SlotSource.AgreesFor Identity.enrollmentId ["alice"]
        ⟨some recipient.identity, recipientInfo handle, some metadata, some info⟩
        ⟨some recipient.identity, recipientInfo handle', some metadata', some info'⟩ :=
    .foreign rfl ⟨_, rfl, enrollmentId_recipient short⟩ (by decide)
      ⟨_, rfl, enrollmentId_recipient short'⟩ (by decide)
  refine ⟨.cons ⟨rfl, rfl, ?_, rfl⟩ .nil, .cons ⟨?_, fun _ => ⟨rfl, rfl⟩, rfl⟩
    (.cons ⟨?_, ?_, rfl⟩ .nil), rfl⟩
  · exact .cons (.same _) (.cons (foreign _ _ _ _) .nil)
  · exact .cons (.same _) (.cons (foreign _ _ _ _) .nil)
  · exact .cons (foreign _ _ _ _) .nil
  · -- the sender receives nothing of the last transfer
    rintro ⟨source, listed, id, wanted, receiver, named, told⟩
    obtain rfl := List.mem_singleton.mp listed
    obtain rfl := List.mem_singleton.mp wanted
    cases named
    exact absurd (told.symm.trans (enrollmentId_recipient short)) (by decide)

/-- The sender sees the same of two payments that tell the recipient different things. -/
theorem payment_secret : ∃ shown shown',
    ((Metadata.filterBy Identity.enrollmentId .default ["alice"]
      (payment [2] [] ⟨"rent", 0⟩)).perform []).1 = .ok shown ∧
    ((Metadata.filterBy Identity.enrollmentId .default ["alice"]
      (payment [3] [4] ⟨"loan", 7⟩)).perform []).1 = .ok shown' ∧ shown = shown' := by
  have short : ([] : Bytes).length < Wire.lengthBound := by decide
  have short' : ([4] : Bytes).length < Wire.lengthBound := by decide
  have success := filterBy_payment [2] ⟨"rent", 0⟩ short
  have success' := filterBy_payment [3] ⟨"loan", 7⟩ short'
  exact ⟨_, _, success, success',
    Metadata.filterBy_eq_of_agreesFor (payment_agreesFor short short') success success'⟩

end Plain

end ConfidentialToken
