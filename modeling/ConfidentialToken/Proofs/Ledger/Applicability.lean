import ConfidentialToken.Proofs.Ledger.Books

/-!
# Accepted requests can be applied

The validator and the ledger check inputs each for itself: the validator transfer by transfer, with a
set that the transfers of a request share, and the ledger all inputs at once. They agree. When a request
is accepted on a ledger and its anchor is new, the ledger takes the actions and loses the inputs of the
accepted transfers, and nothing else.

A ledger may be called by others without a validator. What is used of it is that created tokens have the
anchors of the history, so that the tokens of a new request replace none.
-/

namespace ConfidentialToken

variable {P : Type} [Suite P] {pp : PublicParameters P} {ledger : Ledger} {anchor : String}
  {request : TokenRequest} {message : Bytes} {actions : ValidatedActions P}

namespace TokenRequest.Acceptable

/-- What an accepted request spends is on the ledger, byte for byte. -/
theorem stored (h : request.Acceptable pp ledger anchor message actions) :
    ∀ transfer ∈ actions.transfers, ∀ input ∈ transfer.inputs,
      ledger.state? input.id = some input.token.toBytes :=
  fun transfer mem => (h.transfers transfer mem).stored

/-- A ledger takes the inputs of an accepted request under a new anchor. -/
theorem takes (h : request.Acceptable pp ledger anchor message actions)
    (fresh : anchor ∉ ledger.history.map LedgerEvent.anchor) :
    ledger.Takes anchor actions.spent := by
  refine ⟨fresh, ?_, h.spentOnce⟩
  intro id mem
  obtain ⟨transfer, htransfer, mem⟩ := List.mem_flatMap.mp mem
  obtain ⟨input, hinput, rfl⟩ := List.mem_map.mp mem
  rw [h.stored transfer htransfer input hinput]
  exact nofun

/-- A ledger applies an accepted request under a new anchor. -/
theorem perform_apply_eq_ok (h : request.Acceptable pp ledger anchor message actions)
    (fresh : anchor ∉ ledger.history.map LedgerEvent.anchor) :
    let created := Ledger.created anchor (Ledger.outputsOf actions.issues actions.transfers)
    (Ledger.apply anchor actions.issues actions.transfers).perform ledger =
      (.ok (created.map Prod.fst), ledger.update anchor actions.spent created) := by
  refine Ledger.perform_apply_eq_ok_iff.mpr ⟨h.takes fresh, ?_, rfl, rfl⟩
  intro output mem _
  exact h.length_output_le output mem

end TokenRequest.Acceptable

namespace Ledger

/-- What is there is not created under a new anchor. -/
theorem Consistent.not_mem_created (consistent : Consistent P ledger) {outputs : List (Token P)}
    {spent : List TokenId} (takes : ledger.Takes anchor spent) {id : TokenId}
    (there : id ∈ ledger.unspent) : id ∉ (created anchor outputs).map Prod.fst := by
  intro mem
  obtain ⟨entry, stored, rfl⟩ := List.mem_map.mp mem
  exact mem_unspent_iff.mp there (consistent.fresh takes entry stored)

/-- Applying an accepted request under a new anchor removes the inputs of its transfers and nothing
else. -/
theorem Consistent.removed_iff (consistent : Consistent P ledger) {outputs : List (Token P)}
    {spent : List TokenId} (takes : ledger.Takes anchor spent) {id : TokenId} :
    id ∈ ledger.unspent ∧ id ∉ (ledger.update anchor spent (created anchor outputs)).unspent ↔
      id ∈ spent := by
  rw [mem_unspent_update]
  constructor
  · rintro ⟨there, gone⟩
    by_contra kept
    exact gone (.inl ⟨there, kept⟩)
  · intro mem
    have there : id ∈ ledger.unspent := mem_unspent_iff.mpr (takes.stored id mem)
    refine ⟨there, ?_⟩
    rintro (⟨-, kept⟩ | created)
    · exact kept mem
    · exact consistent.not_mem_created takes there created

/-- A request that is accepted on a ledger is applied there under a new anchor. The ledger loses the
inputs of the accepted transfers and nothing else, and what it loses was stored as the bytes of the
tokens that the transfers name. -/
theorem applies_accepted {time : UInt64} {calls : List (Call P)} {logger : Logger}
    {log : List LogRecord} (reached : ledger = afterCalls time calls)
    (accepted : (((Validator.create pp logger).validate ledger anchor request).perform log).1 =
      .ok actions)
    (fresh : anchor ∉ ledger.history.map LedgerEvent.anchor) :
    ∃ made after,
      (apply anchor actions.issues actions.transfers).perform ledger = (.ok made, after) ∧
      (∀ id, id ∈ ledger.unspent ∧ id ∉ after.unspent ↔
        ∃ transfer ∈ actions.transfers, id ∈ transfer.inputIds) ∧
      (∀ id ∈ ledger.unspent, id ∈ after.unspent → after.state? id = ledger.state? id) ∧
      ∀ transfer ∈ actions.transfers, ∀ input ∈ transfer.inputs,
        ledger.state? input.id = some input.token.toBytes := by
  obtain ⟨message, acceptable⟩ := Validator.validate_eq_ok_iff.mp accepted
  have consistent : Consistent P ledger := reached ▸ .afterCalls time calls
  have takes := acceptable.takes fresh
  refine ⟨_, _, acceptable.perform_apply_eq_ok fresh, ?_, ?_, acceptable.stored⟩
  · intro id
    rw [consistent.removed_iff takes]
    exact List.mem_flatMap
  · intro id there still
    -- an id that is still there was not spent, for what is created has a new anchor
    have kept : id ∉ actions.spent := fun mem => ((consistent.removed_iff takes).mpr mem).2 still
    exact state?_update kept (consistent.not_mem_created takes there)

end Ledger

namespace Plain

/-- The ledger of the swap when it can be reclaimed: issued, issued again in vain, and waited for. -/
def swapLedger : Ledger := Ledger.afterCalls 0 (swapCalls.take 3)

set_option maxRecDepth 4096 in
theorem state?_swapLedger : swapLedger.state? lockedId = some locked.toBytes := by decide

set_option maxRecDepth 4096 in
/-- The reclaim is accepted there, and the token goes when it is applied. -/
theorem applies_reclaim :
    ∃ made after, (Ledger.apply "reclaim" [] [giveBack]).perform swapLedger = (.ok made, after) ∧
      (∀ id, id ∈ swapLedger.unspent ∧ id ∉ after.unspent ↔
        ∃ transfer ∈ [giveBack], id ∈ transfer.inputIds) ∧
      (∀ id ∈ swapLedger.unspent, id ∈ after.unspent → after.state? id = swapLedger.state? id) ∧
      ∀ transfer ∈ [giveBack], ∀ input ∈ transfer.inputs,
        swapLedger.state? input.id = some input.token.toBytes := by
  have late : ¬swapLedger.time < 10 := by decide
  have accepted : (((Validator.create parameters .default).validate swapLedger "reclaim"
      reclaim).perform []).1 = .ok ⟨[], [giveBack]⟩ :=
    Validator.validate_eq_ok_iff.mpr ⟨_, reclaim_acceptable state?_swapLedger late⟩
  have fresh : "reclaim" ∉ swapLedger.history.map LedgerEvent.anchor := by decide
  have reached : swapLedger = Ledger.afterCalls 0 (swapCalls.take 3) := rfl
  have applied := Ledger.applies_accepted reached accepted fresh
  exact applied

end Plain

end ConfidentialToken
