import ConfidentialToken.Proofs.Assembly.Requests
import ConfidentialToken.Proofs.Metadata.Matching

/-!
# Assembled actions that are not well formed

What the builders check and what makes an action well formed are two lists of conditions. The builders
check all that is asked of outputs, but they do not look whether there is an issuer, and of the tokens to
spend they see only that they open. So some issues and transfers are assembled, proof and all, only to be
refused by every validator. Nothing else is missing: where the issuer is somebody, and where the tokens
can be spent together, action and metadata are in order.
-/

namespace ConfidentialToken

/-- Tokens that one transfer can spend: they are not too many, each is listed once, and each has an
owner. -/
structure OwnedToken.SpendTogether {P : Type} (inputs : List (OwnedToken P)) : Prop where
  few : inputs.length ≤ maxOutputs
  distinct : (inputs.map (·.id)).Nodup
  owned : ∀ owned ∈ inputs, owned.token.isRedeemed = false

variable {P : Type} [Suite P] {pp : PublicParameters P} {recipients : List Recipient} {draws : Draws}

namespace IssueAction.Assembled

variable {issuer : Identity} {tokenType : String} {action : IssueAction P} {metadata : IssueMetadata}
  (assembled : Assembled pp issuer tokenType recipients draws action metadata)
include assembled

/-- An assembled issue is well formed if there is an issuer. -/
theorem check_eq_ok_iff : action.check = .ok () ↔ issuer.isNone = false := by
  refine ⟨fun wellFormed => ?_, assembled.check_eq_ok⟩
  rw [← assembled.issuer_eq]
  exact (IssueAction.check_eq_ok_iff.mp wellFormed).1

/-- The metadata of an assembled issue has the lengths of the action. -/
theorem matchAction_eq_ok_iff : metadata.matchAction action = .ok () ↔ action.check = .ok () := by
  rw [IssueMetadata.matchAction_eq_ok_iff]
  refine ⟨fun describes => describes.wellFormed, fun wellFormed => ?_⟩
  refine ⟨wellFormed, ?_, assembled.tells.length_disclosures, ?_, ?_⟩
  · rw [assembled.metadata_eq]
  · rw [assembled.metadata_eq, List.length_map, List.length_map]
  · rw [assembled.metadata_eq]

end IssueAction.Assembled

namespace TransferAction.Assembled

variable {inputs : List (OwnedToken P)} {tokenType : String} {action : TransferAction P}
  {metadata : TransferMetadata}
  (assembled : Assembled pp inputs recipients draws tokenType action metadata)
include assembled

/-- An assembled transfer is well formed if its inputs can be spent together. -/
theorem check_eq_ok_iff : action.check = .ok () ↔ OwnedToken.SpendTogether inputs := by
  constructor
  · intro wellFormed
    obtain ⟨-, few, -, ⟨distinct, owned⟩, -⟩ := TransferAction.check_eq_ok_iff.mp wellFormed
    rw [assembled.inputIds_eq] at distinct
    rw [assembled.inputs_eq] at few owned
    rw [List.length_map] at few
    exact ⟨few, distinct, List.forall_mem_map.mp owned⟩
  · rintro ⟨few, distinct, owned⟩
    exact assembled.check_eq_ok few distinct owned

/-- The metadata of an assembled transfer has the lengths of the action. -/
theorem matchAction_eq_ok_iff : metadata.matchAction action = .ok () ↔ action.check = .ok () := by
  rw [TransferMetadata.matchAction_eq_ok_iff]
  refine ⟨fun describes => describes.wellFormed, fun wellFormed => ?_⟩
  refine ⟨wellFormed, fun _ => ?_, ?_, assembled.tells.length_disclosures, ?_, ?_, ?_⟩
  · rw [assembled.metadata_eq, List.length_map, List.length_map]
  · rw [assembled.metadata_eq, List.length_map, List.length_map]
  · rw [assembled.metadata_eq, List.length_map, assembled.tells.length_outputs]
  · rw [assembled.metadata_eq, List.length_map, List.length_map]
  · rw [assembled.metadata_eq, assembled.extraSigners_eq]

end TransferAction.Assembled

/-- An issue that is assembled is well formed, and its metadata matches it, exactly if there is an issuer;
a transfer that is assembled, exactly if its inputs can be spent together. -/
theorem assembled_wellFormed_iff (pp : PublicParameters P) (recipients : List Recipient)
    (draws : Draws) :
    (∀ issuer tokenType (action : IssueAction P) metadata,
      IssueAction.assemble pp issuer tokenType recipients draws = .ok (action, metadata) →
      (action.check = .ok () ↔ issuer.isNone = false) ∧
        (metadata.matchAction action = .ok () ↔ issuer.isNone = false)) ∧
    ∀ inputs (action : TransferAction P) metadata,
      TransferAction.assemble pp inputs recipients draws = .ok (action, metadata) →
      (action.check = .ok () ↔ OwnedToken.SpendTogether inputs) ∧
        (metadata.matchAction action = .ok () ↔ OwnedToken.SpendTogether inputs) := by
  constructor
  · intro issuer tokenType action metadata made
    have assembled := IssueAction.assemble_eq_ok_iff.mp made
    exact ⟨assembled.check_eq_ok_iff, assembled.matchAction_eq_ok_iff.trans assembled.check_eq_ok_iff⟩
  · intro inputs action metadata made
    obtain ⟨_, assembled⟩ := TransferAction.assemble_eq_ok_iff.mp made
    exact ⟨assembled.check_eq_ok_iff, assembled.matchAction_eq_ok_iff.trans assembled.check_eq_ok_iff⟩

namespace Plain

/-- What is made to the orders of the sender of the swap is in order. -/
theorem orders_wellFormed :
    (∃ action metadata, issueOrder.assemble governed = .ok (action, metadata) ∧
      action.check = .ok () ∧ metadata.matchAction action = .ok ()) ∧
    ∃ action metadata, splitOrder.assemble governed = .ok (action, metadata) ∧
      action.check = .ok () ∧ metadata.matchAction action = .ok () := by
  constructor
  · obtain ⟨action, metadata, made⟩ := exists_assemble_issueOrder
    obtain ⟨wellFormed, matched⟩ := (assembled_wellFormed_iff governed _ _).1 _ _ _ _ made
    exact ⟨action, metadata, made, wellFormed.mpr issueOrder_honest.named,
      matched.mpr issueOrder_honest.named⟩
  · obtain ⟨action, metadata, made⟩ := exists_assemble_splitOrder
    obtain ⟨wellFormed, matched⟩ := (assembled_wellFormed_iff governed _ _).2 _ _ _ made
    have together : OwnedToken.SpendTogether splitOrder.inputs :=
      ⟨by decide, List.nodup_singleton _, List.forall_mem_singleton.mpr (by decide)⟩
    exact ⟨action, metadata, made, wellFormed.mpr together, matched.mpr together⟩

/-- Nobody issues seven euros to the recipient of the swap. -/
def nobodysOrder : IssueOrder := { issueOrder with issuer := .none }

/-- The sender of the swap pays ten euros with five, which it lists twice. -/
def doubleOrder : TransferOrder Plain :=
  ⟨[coin, coin], [⟨recipient.identity, 10, recipient.auditInfo⟩], fun _ => typeBlinding "EUR"⟩

set_option maxRecDepth 2048 in
/-- Both orders are carried out, and neither of what is made is well formed. -/
theorem assembled_not_wellFormed :
    (∃ action metadata, nobodysOrder.assemble governed = .ok (action, metadata) ∧
      action.check ≠ .ok () ∧ metadata.matchAction action ≠ .ok ()) ∧
    ∃ action metadata, doubleOrder.assemble governed = .ok (action, metadata) ∧
      action.check ≠ .ok () ∧ metadata.matchAction action ≠ .ok () := by
  constructor
  · obtain ⟨action, metadata, made⟩ :
        ∃ action metadata, nobodysOrder.assemble governed = .ok (action, metadata) :=
      (IssueAction.exists_assemble_iff made_governed fun _ _ _ _ _ => reliable _ _ _ _ _ _).mpr
        ⟨by decide, by decide, by decide, by decide, List.forall_mem_singleton.mpr (by decide)⟩
    have assembled := IssueAction.assemble_eq_ok_iff.mp made
    have bad : action.check ≠ .ok () := mt assembled.check_eq_ok_iff.mp (by decide)
    exact ⟨action, metadata, made, bad, mt assembled.matchAction_eq_ok_iff.mp bad⟩
  · obtain ⟨action, metadata, made⟩ :
        ∃ action metadata, doubleOrder.assemble governed = .ok (action, metadata) := by
      refine (TransferAction.exists_assemble_iff made_governed (by decide)
        fun _ _ _ _ _ _ => reliable _ _ _ _ _ _).mpr ⟨nofun, "EUR", by decide, ?_, rfl, by decide,
          by decide, List.forall_mem_singleton.mpr (by decide)⟩
      have opened : coin.opening.opens coin.token.data generators = true := decide_eq_true rfl
      exact List.forall_mem_cons.mpr ⟨⟨rfl, opened, by decide⟩,
        List.forall_mem_singleton.mpr ⟨rfl, opened, by decide⟩⟩
    obtain ⟨_, assembled⟩ := TransferAction.assemble_eq_ok_iff.mp made
    have twice : ¬ OwnedToken.SpendTogether doubleOrder.inputs := fun together =>
      absurd together.distinct (by decide)
    have bad := mt assembled.check_eq_ok_iff.mp twice
    exact ⟨action, metadata, made, bad, mt assembled.matchAction_eq_ok_iff.mp bad⟩

end Plain

end ConfidentialToken
