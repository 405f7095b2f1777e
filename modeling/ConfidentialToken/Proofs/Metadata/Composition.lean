import ConfidentialToken.Proofs.Metadata.Filtering
import Mathlib.Data.List.Lattice

/-!
# Filtering twice

What was filtered for some enrollment ids can be filtered again for others, and this gives what the
source gives for the ids that are wanted both times. Nothing is left of a slot of somebody else, and
from nothing the empty id is looked up. So the law has a condition: the others leave none of the first
ids out, or the empty id is not one of them. Without it the senders would stay for the sake of a slot
that shows nothing.
-/

namespace ConfidentialToken

open Metadata (Slot)

variable {lookup : EnrollmentLookup} {ids others : List String}

/-! ## One slot -/

/-- Two slots are made again from a filtered one: the first from what it shows, the second from its
source for the ids that are wanted both times. They show the same, and nothing is kept that was not. -/
structure Metadata.Slot.RefilteredTo (lookup : EnrollmentLookup) (ids others : List String)
    (slot : Slot) (made : Slot × Slot) : Prop where
  again : slot.source.Becomes lookup others made.1
  shown : made.1.source = made.2.source
  kept : made.2.kept = (made.1.kept && slot.kept)
  wider : ids ⊆ others → slot.kept = true → made.1.kept = true
  named : "" ∉ others → made.1.kept = true → slot.kept = true

/-- A slot can be filtered again. -/
theorem SlotSource.Becomes.exists_refiltered (silent : ∀ identity, lookup identity [] = .ok "")
    (others : List String) {source : SlotSource} {slot : Slot} (h : source.Becomes lookup ids slot) :
    ∃ made, slot.RefilteredTo lookup ids others made ∧ source.Becomes lookup (ids ∩ others) made.2 := by
  cases h with
  | @kept receiver id metadata info named told wanted disclosed informed =>
    by_cases again : id ∈ others
    · have both : id ∈ ids ∩ others := List.mem_inter_iff.mpr ⟨wanted, again⟩
      exact ⟨(_, _), ⟨.kept rfl told again rfl rfl, rfl, rfl, fun _ _ => rfl, fun _ _ => rfl⟩,
        .kept named told both disclosed informed⟩
    · have neither : id ∉ ids ∩ others := fun both => again (List.mem_inter_iff.mp both).2
      exact ⟨(_, _), ⟨.blank rfl told again, rfl, rfl, fun wider => absurd (wider wanted) again, nofun⟩,
        .blank named told neither⟩
  | @blank receiver id named told unwanted =>
    have neither : id ∉ ids ∩ others := fun both => unwanted (List.mem_inter_iff.mp both).1
    by_cases again : "" ∈ others
    · exact ⟨(⟨receiver, true, [], [], []⟩, .blank receiver),
        ⟨.kept rfl (silent _) again rfl rfl, rfl, rfl, nofun, fun none => absurd again none⟩,
        .blank named told neither⟩
    · exact ⟨(_, _), ⟨.blank rfl (silent _) again, rfl, rfl, nofun, nofun⟩, .blank named told neither⟩

/-- A slot is kept for the ids that are wanted both times when it is kept each time. -/
theorem Metadata.Slot.RefilteredTo.kept_iff {slot : Slot} {made : Slot × Slot}
    (h : slot.RefilteredTo lookup ids others made) :
    made.2.kept = true ↔ made.1.kept = true ∧ slot.kept = true := by
  rw [h.kept, Bool.and_eq_true]

/-! ## All slots of an entry -/

/-- Some slot is kept for the ids that are wanted both times when some slot is kept each time. Here the
condition is needed, since the two could be different slots. -/
theorem any_kept_of_refiltered (apart : ids ⊆ others ∨ "" ∉ others) {slots : List Slot}
    {made : List (Slot × Slot)}
    (refiltered : List.Forall₂ (Slot.RefilteredTo lookup ids others) slots made) :
    (made.map Prod.snd).any Slot.kept = ((made.map Prod.fst).any Slot.kept && slots.any Slot.kept) := by
  rw [Bool.eq_iff_iff, Bool.and_eq_true, List.any_map, List.any_map]
  simp only [List.any_eq_true, Function.comp_apply]
  constructor
  · intro h
    obtain ⟨pair, mem, kept⟩ := h
    obtain ⟨slot, listed, h⟩ := exists_mem_of_forall₂ refiltered mem
    obtain ⟨again, before⟩ := h.kept_iff.mp kept
    exact ⟨⟨pair, mem, again⟩, slot, listed, before⟩
  · intro h
    obtain ⟨⟨pair, mem, again⟩, slot, listed, before⟩ := h
    cases apart with
    | inl wider =>
      obtain ⟨pair', mem', h⟩ := exists_mem_of_forall₂ refiltered.flip listed
      exact ⟨pair', mem', h.kept_iff.mpr ⟨h.wider wider before, before⟩⟩
    | inr named =>
      obtain ⟨slot', -, h⟩ := exists_mem_of_forall₂ refiltered mem
      exact ⟨pair, mem, h.kept_iff.mpr ⟨again, h.named named again⟩⟩

/-- All slots can be filtered again. -/
theorem SlotSource.exists_refiltered_slots (silent : ∀ identity, lookup identity [] = .ok "")
    (apart : ids ⊆ others ∨ "" ∉ others) {sources : List SlotSource} {slots : List Slot}
    (become : List.Forall₂ (SlotSource.Becomes lookup ids) sources slots) : ∃ again both,
      List.Forall₂ (SlotSource.Becomes lookup others) (slots.map Slot.source) again ∧
      List.Forall₂ (SlotSource.Becomes lookup (ids ∩ others)) sources both ∧
      again.map Slot.source = both.map Slot.source ∧
      both.any Slot.kept = (again.any Slot.kept && slots.any Slot.kept) := by
  obtain ⟨made, refiltered, both⟩ := exists_forall₂_of_forall₂ become
    fun _ _ becomes => becomes.exists_refiltered silent others
  refine ⟨made.map Prod.fst, made.map Prod.snd, ?_, ?_, ?_, any_kept_of_refiltered apart refiltered⟩
  · rw [List.forall₂_map_left_iff, List.forall₂_map_right_iff]
    exact refiltered.imp fun _ _ h => h.again
  · rw [List.forall₂_map_right_iff]
    exact both
  · rw [List.map_map, List.map_map]
    refine List.map_congr_left fun pair mem => ?_
    obtain ⟨slot, -, h⟩ := exists_mem_of_forall₂ refiltered mem
    exact h.shown

/-! ## Entries -/

/-- Slots that show the same have equal lists of what they show. -/
theorem lists_eq_of_source {slots slots' : List Slot}
    (same : slots.map Slot.source = slots'.map Slot.source) :
    slots.map Slot.receiver = slots'.map Slot.receiver ∧
      slots.map Slot.receiverAuditInfo = slots'.map Slot.receiverAuditInfo ∧
      slots.map Slot.outputMetadata = slots'.map Slot.outputMetadata ∧
      slots.map Slot.outputAuditInfo = slots'.map Slot.outputAuditInfo := by
  have list {α : Type} (f : SlotSource → α) :
      slots.map (fun slot => f slot.source) = slots'.map fun slot => f slot.source := by
    simpa [Function.comp_def] using congrArg (List.map f) same
  exact ⟨list fun source => source.receiver.getD default, list SlotSource.receiverAuditInfo,
    list fun source => source.outputMetadata.getD [], list fun source => source.outputAuditInfo.getD []⟩

/-- What filtered metadata of a transfer has for each slot is what the slot shows. -/
theorem TransferMetadata.slotSources_withSlots (m : TransferMetadata) (slots : List Slot) :
    (m.withSlots slots).slotSources = slots.map Slot.source := by
  refine List.ext_getElem (by simp [slotSources, withSlots]) fun i _ here => ?_
  have here : i < slots.length := by simpa using here
  simp [slotSources, withSlots, Slot.source, here]

/-- A slot of an issue comes with no audit info of an output. -/
theorem IssueMetadata.outputAuditInfo_eq_nil {m : IssueMetadata} {slots : List Slot}
    (become : List.Forall₂ (SlotSource.Becomes lookup ids) m.slotSources slots) {slot : Slot}
    (mem : slot ∈ slots) : slot.outputAuditInfo = [] := by
  obtain ⟨source, listed, becomes⟩ := exists_mem_of_forall₂ become mem
  obtain ⟨i, bound, rfl⟩ := List.mem_mapIdx.mp listed
  cases becomes with
  | kept _ _ _ _ informed => exact (Option.some.inj informed).symm
  | blank => rfl

/-- What filtered metadata of an issue has for each slot is what the slot shows. -/
theorem IssueMetadata.slotSources_withSlots {m : IssueMetadata} {slots : List Slot}
    (become : List.Forall₂ (SlotSource.Becomes lookup ids) m.slotSources slots) :
    (m.withSlots slots).slotSources = slots.map Slot.source := by
  refine List.ext_getElem (by simp [slotSources, withSlots]) fun i _ here => ?_
  have here : i < slots.length := by simpa using here
  have uninformed := outputAuditInfo_eq_nil become (List.getElem_mem here)
  simp [slotSources, withSlots, Slot.source, here, uninformed]

/-- The metadata of an issue can be filtered again. -/
theorem IssueMetadata.FilteredTo.exists_refiltered (silent : ∀ identity, lookup identity [] = .ok "")
    (apart : ids ⊆ others ∨ "" ∉ others) {m filtered : IssueMetadata}
    (h : m.FilteredTo lookup ids filtered) :
    ∃ shown, filtered.FilteredTo lookup others shown ∧ m.FilteredTo lookup (ids ∩ others) shown := by
  obtain ⟨slots, become, rfl⟩ := h
  obtain ⟨again, both, becomeAgain, becomeBoth, same, -⟩ :=
    SlotSource.exists_refiltered_slots silent apart become
  obtain ⟨receivers, infos, disclosures, -⟩ := lists_eq_of_source same
  refine ⟨m.withSlots both, ⟨again, ?_, ?_⟩, ⟨both, becomeBoth, rfl⟩⟩
  · rw [slotSources_withSlots become]
    exact becomeAgain
  · simp only [withSlots, receivers, infos, disclosures]

/-- The metadata of a transfer can be filtered again. -/
theorem TransferMetadata.FilteredTo.exists_refiltered
    (silent : ∀ identity, lookup identity [] = .ok "") (apart : ids ⊆ others ∨ "" ∉ others)
    {m filtered : TransferMetadata} (h : m.FilteredTo lookup ids filtered) :
    ∃ shown, filtered.FilteredTo lookup others shown ∧ m.FilteredTo lookup (ids ∩ others) shown := by
  obtain ⟨slots, become, enough, rfl⟩ := h
  obtain ⟨again, both, becomeAgain, becomeBoth, same, kept⟩ :=
    SlotSource.exists_refiltered_slots silent apart become
  obtain ⟨receivers, infos, disclosures, outputInfos⟩ := lists_eq_of_source same
  refine ⟨m.withSlots both, ⟨again, ?_, ?_, ?_⟩, ⟨both, becomeBoth, ?_, rfl⟩⟩
  · rw [slotSources_withSlots]
    exact becomeAgain
  · intro _
    by_cases told : slots.any Slot.kept = true
    · simp [withSlots, told, enough told]
    · simp [withSlots, told]
  · -- the senders stay when slots are kept each time
    simp only [withSlots, receivers, infos, disclosures, outputInfos, kept]
    cases again.any Slot.kept with
    | false => simp
    | true => cases slots.any Slot.kept <;> simp
  · intro told
    rw [kept, Bool.and_eq_true] at told
    exact enough told.2

/-! ## Requests -/

/-- The metadata of a request can be filtered again. -/
theorem RequestMetadata.FilteredTo.exists_refiltered
    (silent : ∀ identity, lookup identity [] = .ok "") (apart : ids ⊆ others ∨ "" ∉ others)
    {m filtered : RequestMetadata} (h : m.FilteredTo lookup ids filtered) :
    ∃ shown, filtered.FilteredTo lookup others shown ∧ m.FilteredTo lookup (ids ∩ others) shown := by
  obtain ⟨issues, again, both⟩ := exists_forall₂_of_forall₂ h.issues
    fun _ _ issue => issue.exists_refiltered silent apart
  obtain ⟨transfers, again', both'⟩ := exists_forall₂_of_forall₂ h.transfers
    fun _ _ transfer => transfer.exists_refiltered silent apart
  exact ⟨⟨issues, transfers, m.application⟩, ⟨again, again', h.application.symm⟩, ⟨both, both', rfl⟩⟩

namespace Metadata

variable {source filtered : RequestMetadata} {log : Logger} {records : List LogRecord}

/-- Filtering for some ids and then for others gives what filtering once gives for the ids that are
wanted both times, if the others leave out none of the first or do not have the empty id. -/
theorem exists_filterBy_filterBy
    (success : ((filterBy Identity.enrollmentId log ids source).perform records).1 = .ok filtered)
    (apart : ids ⊆ others ∨ "" ∉ others) : ∃ shown, ∀ log' records',
      ((filterBy Identity.enrollmentId log' others filtered).perform records').1 = .ok shown ∧
      ((filterBy Identity.enrollmentId log' (ids ∩ others) source).perform records').1 = .ok shown := by
  obtain ⟨shown, again, both⟩ := (filterBy_eq_ok_iff.mp success).exists_refiltered
    Identity.enrollmentId_nil apart
  exact ⟨shown, fun _ _ => ⟨filterBy_eq_ok_iff.mpr again, filterBy_eq_ok_iff.mpr both⟩⟩

/-- Filtering is idempotent for any ids, and filtering again for others that do not have the empty id
gives what the source gives for the ids that are wanted both times. -/
theorem filterBy_composes
    (success : ((filterBy Identity.enrollmentId log ids source).perform records).1 = .ok filtered) :
    (∀ log' records',
      ((filterBy Identity.enrollmentId log' ids filtered).perform records').1 = .ok filtered) ∧
    ∀ others, "" ∉ others → ∃ shown, ∀ log' records',
      ((filterBy Identity.enrollmentId log' others filtered).perform records').1 = .ok shown ∧
      ((filterBy Identity.enrollmentId log' (ids ∩ others) source).perform records').1 = .ok shown := by
  refine ⟨fun log' records' => ?_, fun others named => exists_filterBy_filterBy success (.inr named)⟩
  obtain ⟨shown, composed⟩ := exists_filterBy_filterBy success (.inl (List.Subset.refl ids))
  have same : ids ∩ ids = ids := (List.Subset.refl ids).inter_eq_left
  rw [same] at composed
  obtain rfl : filtered = shown := Except.ok.inj (success.symm.trans (composed log records).2)
  exact (composed log' records').1

end Metadata

namespace Plain

/-- What the sender sees of a payment stays the same for the sender, and shows others what the payment
shows to those of them who are the sender. -/
theorem payment_composes :
    (∀ log' records', ((Metadata.filterBy Identity.enrollmentId log' ["alice"]
      paymentShown).perform records').1 = .ok paymentShown) ∧
    ∀ others, "" ∉ others → ∃ shown, ∀ log' records',
      ((Metadata.filterBy Identity.enrollmentId log' others paymentShown).perform records').1 =
        .ok shown ∧
      ((Metadata.filterBy Identity.enrollmentId log' (["alice"] ∩ others)
        (payment [2] [] lockedId)).perform records').1 = .ok shown :=
  Metadata.filterBy_composes (filterBy_payment [2] lockedId (by decide))

end Plain

end ConfidentialToken
