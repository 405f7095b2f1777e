import ConfidentialToken.Proofs.Validation.Acceptance

/-!
# Places of signatures

The signatures of a request name no signer; what they are for is told by their places. In an accepted
request every input of a transfer has a place of its own, and the signature there is one of the party
that is entitled to the input's token.
-/

namespace ConfidentialToken

namespace ValidatedActions

variable {P : Type}

/-- What the signatures of a request are for, in order: an input, by its id, or else the issuer of an
issue or an extra signer. -/
def slots (actions : ValidatedActions P) : List (Option TokenId) :=
  actions.issues.map (fun _ => none) ++ actions.transfers.flatMap fun transfer =>
    transfer.inputs.map (some ·.id) ++ transfer.extraSigners.map fun _ => none

/-- The place of the signature for an input. -/
def place (actions : ValidatedActions P) (id : TokenId) : Nat := actions.slots.idxOf (some id)

theorem mem_slots {actions : ValidatedActions P} {id : TokenId} (mem : id ∈ actions.spent) :
    some id ∈ actions.slots := by
  obtain ⟨transfer, htransfer, mem⟩ := List.mem_flatMap.mp mem
  obtain ⟨input, hinput, rfl⟩ := List.mem_map.mp mem
  refine List.mem_append_right _ (List.mem_flatMap.mpr ⟨transfer, htransfer, ?_⟩)
  exact List.mem_append_left _ (List.mem_map.mpr ⟨input, hinput, rfl⟩)

/-- Different inputs have different places. -/
theorem place_inj {actions : ValidatedActions P} {id other : TokenId} (mem : id ∈ actions.spent)
    (same : actions.place id = actions.place other) : id = other :=
  Option.some.inj ((List.idxOf_inj (mem_slots mem)).mp same)

/-- The signer in the place of an input is the party entitled to it. -/
theorem forall₂_slots_signers (actions : ValidatedActions P) (now : UInt64) :
    List.Forall₂ (fun slot signer => ∀ id, slot = some id →
      ∃ transfer ∈ actions.transfers, ∃ input ∈ transfer.inputs, input.id = id ∧
        signer = input.token.owner.entitledAt now) actions.slots (actions.signers now) := by
  refine List.rel_append ?_ (List.rel_flatMap (R := fun t u => t = u ∧ t ∈ actions.transfers) ?_ ?_)
  · rw [List.forall₂_map_left_iff, List.forall₂_map_right_iff, List.forall₂_same]
    exact fun _ _ _ => nofun
  · exact List.forall₂_same.mpr fun transfer mem => ⟨rfl, mem⟩
  · rintro transfer _ ⟨rfl, htransfer⟩
    refine List.rel_append ?_ ?_
    · rw [List.forall₂_map_left_iff, List.forall₂_map_right_iff, List.forall₂_same]
      rintro input hinput _ ⟨⟩
      exact ⟨transfer, htransfer, input, hinput, rfl, rfl⟩
    · rw [List.forall₂_map_left_iff, List.forall₂_same]
      exact fun _ _ _ => nofun

end ValidatedActions

namespace TokenRequest.Acceptable

variable {P : Type} [Suite P] {pp : PublicParameters P} {ledger : Ledger} {anchor : String}
  {request : TokenRequest} {message : Bytes} {actions : ValidatedActions P}
  {transfer : TransferAction P} {input : ActionInput P}

/-- An id is that of one input alone. -/
theorem input_unique (h : request.Acceptable pp ledger anchor message actions)
    {other : TransferAction P} {found : ActionInput P} (hother : other ∈ actions.transfers)
    (hfound : found ∈ other.inputs) (htransfer : transfer ∈ actions.transfers)
    (hinput : input ∈ transfer.inputs) (same : found.id = input.id) : found = input := by
  have nodup : ((actions.transfers.flatMap TransferAction.inputs).map ActionInput.id).Nodup := by
    rw [List.map_flatMap]
    exact h.spentOnce
  exact List.inj_on_of_nodup_map nodup (List.mem_flatMap.mpr ⟨other, hother, hfound⟩)
    (List.mem_flatMap.mpr ⟨transfer, htransfer, hinput⟩) same

/-- The signature in the place of an input is one of the party entitled to it. -/
theorem signed_at_place (h : request.Acceptable pp ledger anchor message actions)
    (htransfer : transfer ∈ actions.transfers) (hinput : input ∈ transfer.inputs) :
    ∃ signature, request.signatures[actions.place input.id]? = some signature ∧
      (input.token.owner.entitledAt ledger.time).verify P message signature = .ok () := by
  have mem : input.id ∈ actions.spent :=
    List.mem_flatMap.mpr ⟨transfer, htransfer, List.mem_map_of_mem hinput⟩
  have inSlots : actions.place input.id < actions.slots.length :=
    List.idxOf_lt_length_of_mem (ValidatedActions.mem_slots mem)
  have slotsSigners := actions.forall₂_slots_signers ledger.time
  have inSigners : actions.place input.id < (actions.signers ledger.time).length :=
    slotsSigners.length_eq ▸ inSlots
  have inSignatures : actions.place input.id < request.signatures.length :=
    h.signed.length_eq ▸ inSigners
  have slot : actions.slots[actions.place input.id] = some input.id := List.getElem_idxOf inSlots
  -- the slot names the input by its id alone, so an input with that id is found, then this one
  obtain ⟨other, hother, found, hfound, same, signer⟩ :=
    slotsSigners.get inSlots inSigners input.id slot
  have verified := h.signed.get inSigners inSignatures
  refine ⟨request.signatures[actions.place input.id], List.getElem?_eq_getElem inSignatures, ?_⟩
  obtain rfl : found = input := h.input_unique hother hfound htransfer hinput same
  rw [← signer]
  exact verified

end TokenRequest.Acceptable

end ConfidentialToken
