import ConfidentialToken.Proofs.Ledger.Independence

/-!
# The effect of applying actions

Actions are applied as a whole or refused as a whole, and here both are exact. A ledger refuses when the
anchor is known, when an input is missing or when one is spent twice; it is the same ledger then, since
no change of it comes before a check. Else
the owned outputs come to the ledger under their numbers, which run through all issues and then through
all transfers and leave out the numbers of redeemed outputs; the inputs go; under every other id nothing
changes; and one event is added to the history.

A token over the size limit of the wire is a fourth reason to refuse (`exists_perform_apply_error_iff`); the
statement about ledgers under calls leaves it out by assumption.
-/

namespace ConfidentialToken

namespace Ledger

variable {P : Type} [PointGroup P] {ledger after : Ledger} {anchor : String}
  {issues : List (IssueAction P)} {transfers : List (TransferAction P)} {made : List TokenId}

/-! ## Refusal -/

/-- All reasons for which a ledger refuses actions. -/
theorem exists_perform_apply_error_iff :
    (∃ e after, (apply anchor issues transfers).perform ledger = (.error e, after)) ↔
    anchor ∈ ledger.history.map LedgerEvent.anchor ∨
    (∃ id ∈ transfers.flatMap TransferAction.inputIds, ledger.state? id = none) ∨
    (∃ id, 2 ≤ (transfers.flatMap TransferAction.inputIds).count id) ∨
    ¬Storable (outputsOf issues transfers) := by
  have taken : ledger.Takes anchor (transfers.flatMap TransferAction.inputIds) ∧
      Storable (outputsOf issues transfers) ↔
      ∃ made after, (apply anchor issues transfers).perform ledger = (.ok made, after) := by
    simp only [perform_apply_eq_ok_iff, exists_and_left, exists_eq, and_true]
  have refused : (∃ e after, (apply anchor issues transfers).perform ledger = (.error e, after)) ↔
      ¬∃ made after, (apply anchor issues transfers).perform ledger = (.ok made, after) := by
    cases (apply anchor issues transfers).perform ledger with
    | mk verdict after => cases verdict <;> simp
  rw [refused, ← taken]
  constructor
  · intro notTaken
    by_contra! none
    obtain ⟨fresh, stored, once, storable⟩ := none
    have nodup : (transfers.flatMap TransferAction.inputIds).Nodup :=
      List.nodup_iff_count_le_one.mpr fun id => Nat.le_of_lt_succ (once id)
    exact notTaken ⟨⟨fresh, stored, nodup⟩, storable⟩
  · rintro reason ⟨takes, storable⟩
    rcases reason with known | ⟨id, mem, missing⟩ | ⟨id, twice⟩ | tooLong
    · exact takes.fresh known
    · exact takes.stored id mem missing
    · exact absurd (List.nodup_iff_count_le_one.mp takes.nodup id) (Nat.not_le_of_lt twice)
    · exact tooLong storable

/-! ## Effect -/

/-- What applying actions makes of a ledger: the outputs of the actions in the order of their numbers
are given, the ids that are spent, the ids that are created, and the ledger after it. -/
structure Effect (ledger : Ledger) (anchor : String) (outputs : List (Token P))
    (spent made : List TokenId) (after : Ledger) : Prop where
  /-- An id is created for each owned output, with its number. -/
  mem_made_iff : ∀ id, id ∈ made ↔ ∃ (i : Nat) (output : Token P), outputs[i]? = some output ∧
    output.isRedeemed = false ∧ id = ⟨anchor, .ofNat i⟩
  /-- The created ids come in the order of the outputs, each once. -/
  ascending : made.Pairwise fun x y => x.index < y.index
  stores : ∀ (i : Nat) (output : Token P), outputs[i]? = some output → output.isRedeemed = false →
    after.state? ⟨anchor, .ofNat i⟩ = some output.toBytes
  spends : ∀ id ∈ spent, after.state? id = none
  keeps : ∀ id, id ∉ made → id ∉ spent → after.state? id = ledger.state? id
  records : after.history = ledger.history ++ [⟨anchor, made, spent⟩]
  time_eq : after.time = ledger.time

/-- An output has an entry among those created exactly if somebody owns it. -/
theorem mem_created_iff_getElem? {outputs : List (Token P)} {id : TokenId} {bytes : Bytes} :
    (id, bytes) ∈ created anchor outputs ↔ ∃ (i : Nat) (output : Token P),
      outputs[i]? = some output ∧ output.isRedeemed = false ∧ id = ⟨anchor, .ofNat i⟩ ∧
        bytes = output.toBytes := by
  simp only [mem_created_iff, mem_withPositions_iff]

/-- On a ledger whose history accounts for its tokens, what is created is none of what is spent, so
neither hides the other. -/
theorem Accounted.effect_update (books : ledger.Accounted) {outputs : List (Token P)}
    {spent : List TokenId} (takes : ledger.Takes anchor spent)
    (few : outputs.length < UInt64.size) :
    ledger.Effect anchor outputs spent ((created anchor outputs).map Prod.fst)
      (ledger.update anchor spent (created anchor outputs)) where
  mem_made_iff id := by
    simp only [List.mem_map, Prod.exists, mem_created_iff_getElem?, exists_and_right,
      exists_eq_right]
    constructor
    · rintro ⟨_, i, output, there, owned, same, -⟩
      exact ⟨i, output, there, owned, same⟩
    · rintro ⟨i, output, there, owned, same⟩
      exact ⟨_, i, output, there, owned, same, rfl⟩
  ascending := ascending_created few
  stores i output there owned :=
    state?_update_of_mem (nodup_created few)
      (mem_created_iff_getElem?.mpr ⟨i, output, there, owned, rfl, rfl⟩)
  spends id mem :=
    state?_update_eq_none mem fun made => books.created_disjoint_spent takes takes outputs made mem
  keeps id apart kept := state?_update kept apart
  records := rfl
  time_eq := rfl

/-- Whatever calls were made on a ledger before, it refuses actions exactly when the anchor is in its
history, an input is not there or an input is spent twice, and it is the same ledger then. Otherwise it
becomes the ledger with exactly the effect of the actions. -/
theorem applied_or_refused {time : UInt64} {calls : List (Call P)}
    (reached : ledger = afterCalls time calls) (storable : Storable (outputsOf issues transfers))
    (numbered : (outputsOf issues transfers).length < UInt64.size) :
    ((∃ e after, (apply anchor issues transfers).perform ledger = (.error e, after)) ↔
      anchor ∈ ledger.history.map LedgerEvent.anchor ∨
      (∃ id ∈ transfers.flatMap TransferAction.inputIds, ledger.state? id = none) ∨
      ∃ id, 2 ≤ (transfers.flatMap TransferAction.inputIds).count id) ∧
    (∀ e after, (apply anchor issues transfers).perform ledger = (.error e, after) →
      after = ledger) ∧
    ∀ made after, (apply anchor issues transfers).perform ledger = (.ok made, after) →
      ledger.Effect anchor (outputsOf issues transfers)
        (transfers.flatMap TransferAction.inputIds) made after := by
  refine ⟨?_, apply_atomic ledger, ?_⟩
  · rw [exists_perform_apply_error_iff]
    simp only [storable, not_true_eq_false, or_false]
  · intro made after applied
    have books : ledger.Accounted := reached ▸ .afterCalls time calls
    obtain ⟨takes, -, rfl, rfl⟩ := perform_apply_eq_ok_iff.mp applied
    exact books.effect_update takes numbered

end Ledger

namespace Plain

open Ledger

/-- A transfer of one of the tokens that were issued, of which one part is redeemed. -/
def redeemPart : TransferAction Plain :=
  ⟨[⟨⟨"mint", 0⟩, locked⟩], [⟨.none, locked.data⟩, ⟨sender.identity, locked.data⟩], [], .empty, []⟩

set_option maxRecDepth 4096 in
theorem storable_redeemPart :
    Storable (Ledger.outputsOf [issue sender.identity [locked]] [redeemPart]) := by
  have short : ∀ output ∈ Ledger.outputsOf [issue sender.identity [locked]] [redeemPart],
      output.toBytes.length ≤ Wire.sizeLimit := by
    decide
  exact fun output mem _ => short output mem

set_option maxRecDepth 4096 in
/-- A third token is issued while a part of the first is redeemed. The redeemed output has the number
between those of the two that are stored. -/
theorem applied_redeemPart : ∃ after,
    (apply "pay" [issue sender.identity [locked]] [redeemPart]).perform twoLocked =
      (.ok [⟨"pay", 0⟩, ⟨"pay", 2⟩], after) ∧
    twoLocked.Effect "pay" (Ledger.outputsOf [issue sender.identity [locked]] [redeemPart])
      [⟨"mint", 0⟩] [⟨"pay", 0⟩, ⟨"pay", 2⟩] after := by
  have reached : twoLocked = afterCalls 0
      [.apply "mint" [issue sender.identity [locked, locked]] [] (by decide)] := rfl
  have stored : twoLocked.state? ⟨"mint", 0⟩ ≠ none := by decide
  have fresh : "pay" ∉ twoLocked.history.map LedgerEvent.anchor := by decide
  have applied : ∃ after,
      (apply "pay" [issue sender.identity [locked]] [redeemPart]).perform twoLocked =
        (.ok [⟨"pay", 0⟩, ⟨"pay", 2⟩], after) :=
    ⟨_, perform_apply_eq_ok_iff.mpr ⟨⟨fresh, List.forall_mem_singleton.mpr stored, List.nodup_singleton _⟩,
      storable_redeemPart, rfl, rfl⟩⟩
  obtain ⟨after, applied⟩ := applied
  obtain ⟨-, -, becomes⟩ := applied_or_refused reached storable_redeemPart (by decide)
  exact ⟨after, applied, becomes _ _ applied⟩

end Plain

end ConfidentialToken
