import ConfidentialToken.Proofs.Assembly.WellFormed

/-!
# The spent tokens that metadata names

The metadata of a transfer may list the ids of the spent tokens, and whoever keeps tokens deletes them by
this list. Matching counts the listed ids against the senders and the senders against their audit infos,
but it looks neither at the ids of the inputs nor at their number. So metadata that matches names the
inputs exactly if the two lists of ids are equal, which is left to whoever made it: the builder lists the
inputs, and any other list of the same length matches as well.
-/

namespace ConfidentialToken

/-- Lists that are put together from pieces, each as long as the one in its place, are equal exactly if
all pieces are. -/
theorem flatMap_eq_flatMap_iff {α β γ : Type} {f : α → List γ} {g : β → List γ} {items : List α}
    {others : List β} (aligned : List.Forall₂ (fun a b => (f a).length = (g b).length) items others) :
    items.flatMap f = others.flatMap g ↔ List.Forall₂ (fun a b => f a = g b) items others := by
  induction aligned with
  | nil => exact iff_of_true rfl .nil
  | cons same _ ih =>
    rw [List.flatMap_cons, List.flatMap_cons, List.forall₂_cons, ← ih]
    constructor
    · exact fun equal => List.append_inj equal same
    · rintro ⟨first, rest⟩
      rw [first, rest]

/-- Metadata names the inputs of a transfer: their ids in order, and a sender for each. -/
structure TransferMetadata.NamesInputs {P : Type} (m : TransferMetadata) (action : TransferAction P) :
    Prop where
  tokenIds : m.tokenIds = action.inputIds
  senders : m.senders.length = action.inputs.length

section

variable {P : Type} {m : TransferMetadata} {action : TransferAction P}

theorem TransferAction.length_inputIds (action : TransferAction P) :
    action.inputIds.length = action.inputs.length :=
  List.length_map _

namespace TransferMetadata

/-- With the ids, the number of senders is right. -/
theorem Describes.namesInputs_iff (h : m.Describes action) (listed : m.tokenIds ≠ []) :
    m.NamesInputs action ↔ m.tokenIds = action.inputIds := by
  refine ⟨fun names => names.tokenIds, fun same => ⟨same, ?_⟩⟩
  rw [h.tokenIds listed, same, action.length_inputIds]

/-- A description stays one with other ids, if they are as many, and of an action with other inputs. -/
theorem Describes.exchange (h : m.Describes action) {ids : List TokenId}
    {inputs : List (ActionInput P)} (many : ids.length = m.tokenIds.length)
    (wellFormed : { action with inputs }.check = .ok ()) :
    { m with tokenIds := ids }.Describes { action with inputs } := by
  refine ⟨wellFormed, fun listed => ?_, h.senders, h.outputs, h.outputAuditInfos, h.receivers,
    h.extraSigners⟩
  have listed' : m.tokenIds ≠ [] := by
    rw [← List.length_pos_iff] at listed ⊢
    exact many ▸ listed
  exact (h.tokenIds listed').trans many.symm

end TransferMetadata

/-- Metadata with a list of ids for each transfer names all inputs exactly if the ids it tells are those of
the inputs, and there is a sender for each input of each transfer. -/
theorem RequestMetadata.namesInputs_iff {source : RequestMetadata} {actions : List (TransferAction P)}
    (matched : List.Forall₂ (fun m action => m.Describes action ∧ m.tokenIds ≠ [])
      source.transfers actions) :
    List.Forall₂ TransferMetadata.NamesInputs source.transfers actions ↔
      source.spentTokenIds = actions.flatMap TransferAction.inputIds ∧
      List.Forall₂ (fun m action => m.senders.length = action.inputs.length)
        source.transfers actions := by
  constructor
  · intro names
    have senders := names.imp fun _ _ each => each.senders
    have aligned := names.imp fun _ _ each => congrArg List.length each.tokenIds
    exact ⟨(flatMap_eq_flatMap_iff aligned).mpr (names.imp fun _ _ each => each.tokenIds), senders⟩
  · rintro ⟨told, senders⟩
    -- an id for each sender and a sender for each input: the ids fall into pieces of the right lengths
    have aligned := (forall₂_and matched senders).imp fun m action ⟨⟨h, listed⟩, one⟩ =>
      show m.tokenIds.length = action.inputIds.length by
        rw [← h.tokenIds listed, one, action.length_inputIds]
    have ids := (flatMap_eq_flatMap_iff aligned).mp told
    exact (forall₂_and ids senders).imp fun _ _ ⟨same, one⟩ => ⟨same, one⟩

end

/-- What is assembled names the inputs. -/
theorem TransferAction.Assembled.namesInputs {P : Type} [Suite P] {pp : PublicParameters P}
    {recipients : List Recipient} {inputs : List (OwnedToken P)} {draws : Draws} {tokenType : String}
    {action : TransferAction P} {metadata : TransferMetadata}
    (assembled : Assembled pp inputs recipients draws tokenType action metadata) :
    metadata.NamesInputs action := by
  constructor
  · rw [assembled.inputIds_eq, assembled.metadata_eq]
  · rw [assembled.inputs_eq, assembled.metadata_eq, List.length_map, List.length_map]

/-- Metadata that matches a transfer and lists ids has a sender for each id, and names the inputs exactly
if the ids are theirs; but other ids, as many, and other inputs match as well. Over a request, the ids
that are told are those of all inputs, with a sender for each, exactly if every transfer's metadata names
its inputs. What the builder assembles does. -/
theorem TransferMetadata.matchAction_namesInputs (P : Type) [Suite P] :
    (∀ (m : TransferMetadata) (action : TransferAction P), m.matchAction action = .ok () →
      m.tokenIds ≠ [] → m.senders.length = m.tokenIds.length ∧
      (m.NamesInputs action ↔ m.tokenIds = action.inputIds) ∧
      ∀ (ids : List TokenId) inputs, ids.length = m.tokenIds.length →
        { action with inputs }.check = .ok () →
        { m with tokenIds := ids }.matchAction { action with inputs } = .ok ()) ∧
    (∀ (source : RequestMetadata) (actions : List (TransferAction P)),
      List.Forall₂ (fun m action => m.matchAction action = .ok () ∧ m.tokenIds ≠ [])
        source.transfers actions →
      (List.Forall₂ NamesInputs source.transfers actions ↔
        source.spentTokenIds = actions.flatMap TransferAction.inputIds ∧
        List.Forall₂ (fun m action => m.senders.length = action.inputs.length)
          source.transfers actions)) ∧
    ∀ (pp : PublicParameters P) inputs recipients draws action m,
      TransferAction.assemble pp inputs recipients draws = .ok (action, m) → m.NamesInputs action := by
  refine ⟨fun m action matched listed => ?_, fun source actions matched => ?_, ?_⟩
  · have describes := matchAction_eq_ok_iff.mp matched
    refine ⟨describes.tokenIds listed, describes.namesInputs_iff listed, fun ids inputs many wellFormed => ?_⟩
    exact matchAction_eq_ok_iff.mpr (describes.exchange many wellFormed)
  · exact RequestMetadata.namesInputs_iff (matched.imp fun _ _ each =>
      ⟨matchAction_eq_ok_iff.mp each.1, each.2⟩)
  · intro pp inputs recipients draws action m made
    obtain ⟨_, assembled⟩ := TransferAction.assemble_eq_ok_iff.mp made
    exact assembled.namesInputs

namespace Plain

/-- The transfers of the payment, each of the locked token. -/
def payments : List (TransferAction Plain) := [pay [locked, locked], pay [locked]]

/-- The metadata of the payment matches its transfers, whatever token it lists as spent. -/
theorem payment_matched (spent : TokenId) :
    List.Forall₂ (fun m action => m.matchAction action = .ok () ∧ m.tokenIds ≠ [])
      (payment [2] [] spent).transfers payments := by
  refine .cons ⟨?_, List.cons_ne_nil _ _⟩ (.cons ⟨?_, List.cons_ne_nil _ _⟩ .nil)
  · exact TransferMetadata.matchAction_eq_ok_iff.mpr
      ⟨check_pay (by simp) (by decide), fun _ => rfl, rfl, rfl, rfl, rfl, rfl⟩
  · exact TransferMetadata.matchAction_eq_ok_iff.mpr
      ⟨check_pay (by simp) (by decide), fun _ => rfl, rfl, rfl, rfl, rfl, rfl⟩

/-- Where the payment lists the locked token, its metadata names all inputs; and so does what is
assembled for the order that splits a coin. -/
theorem payment_namesInputs :
    (payment [2] [] lockedId).spentTokenIds = payments.flatMap TransferAction.inputIds ∧
    List.Forall₂ TransferMetadata.NamesInputs (payment [2] [] lockedId).transfers payments ∧
    ∃ action metadata, splitOrder.assemble governed = .ok (action, metadata) ∧
      metadata.NamesInputs action := by
  obtain ⟨-, requests, assembled⟩ := TransferMetadata.matchAction_namesInputs Plain
  obtain ⟨action, metadata, made⟩ := exists_assemble_splitOrder
  exact ⟨rfl, (requests _ _ (payment_matched lockedId)).mpr ⟨rfl, .cons rfl (.cons rfl .nil)⟩, action,
    metadata, made, assembled _ _ _ _ _ _ made⟩

/-- The id of a token that the payment does not touch. -/
def strayId : TokenId := ⟨"stray", 9⟩

/-- Metadata with two senders and two ids, for the one input of a transfer. -/
def twoSenders : TransferMetadata :=
  ⟨[lockedId, strayId], [sender.identity, sender.identity], [sender.auditInfo, sender.auditInfo], [[1]],
    [sender.auditInfo], [sender.identity], [sender.auditInfo], []⟩

/-- Metadata can match a request's transfers, with ids for all of them, and tell the id of a token that
is not spent in place of one that is; and it can match a transfer with more senders than inputs. -/
theorem stray_matched :
    (List.Forall₂ (fun m action => m.matchAction action = .ok () ∧ m.tokenIds ≠ [])
        (payment [2] [] strayId).transfers payments ∧
      (payment [2] [] strayId).spentTokenIds = [strayId, strayId] ∧
      payments.flatMap TransferAction.inputIds = [lockedId, lockedId] ∧ strayId ≠ lockedId) ∧
    twoSenders.matchAction (pay [locked]) = .ok () ∧ twoSenders.tokenIds ≠ (pay [locked]).inputIds ∧
      twoSenders.senders.length ≠ (pay [locked]).inputs.length := by
  refine ⟨⟨payment_matched strayId, rfl, rfl, by decide⟩, ?_, by decide, by decide⟩
  exact TransferMetadata.matchAction_eq_ok_iff.mpr
    ⟨check_pay (by simp) (by decide), fun _ => rfl, rfl, rfl, rfl, rfl, rfl⟩

end Plain

end ConfidentialToken
