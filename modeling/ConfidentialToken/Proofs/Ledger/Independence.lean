import ConfidentialToken.Proofs.Ledger.Books

/-!
# Independent requests

Two requests that a ledger would take both are independent when they spend no token in common. Then it
does not matter which of them is applied first. If they have one in common, each excludes the other. This
rests on the books of a ledger: what a request spends was created under an anchor of the history, so that
none of two new requests can spend or replace what the other creates.
-/

namespace ConfidentialToken.Ledger

variable {P : Type} [PointGroup P] {ledger : Ledger} {anchor anchor' : String}
  {spent spent' : List TokenId} {stored stored' : List (TokenId × Bytes)}

/-! ## Two updates -/

/-- All that a ledger holds after tokens were spent and stored. -/
theorem state?_update_eq {id : TokenId} : (ledger.update anchor spent stored).state? id =
    if id ∈ stored.map Prod.fst then (SortedMap.ofList stored).get? id
    else if id ∈ spent then none else ledger.state? id := by
  split
  · next created => exact SortedMap.get?_foldl_insert_congr created
  · next apart =>
    split
    · next gone => exact state?_update_eq_none gone apart
    · next kept => exact state?_update kept apart

/-- Updates commute when neither spends or stores an id that the other stores. -/
theorem tokens_update_comm (ledger : Ledger) (anchor anchor' : String)
    (apart : (stored.map Prod.fst).Disjoint (stored'.map Prod.fst))
    (kept : (stored.map Prod.fst).Disjoint spent') (kept' : (stored'.map Prod.fst).Disjoint spent) :
    ((ledger.update anchor spent stored).update anchor' spent' stored').tokens =
      ((ledger.update anchor' spent' stored').update anchor spent stored).tokens := by
  refine SortedMap.ext_get? fun id => ?_
  show ((ledger.update anchor spent stored).update anchor' spent' stored').state? id =
    ((ledger.update anchor' spent' stored').update anchor spent stored).state? id
  simp only [state?_update_eq]
  by_cases created : id ∈ stored.map Prod.fst
  · have other : id ∉ stored'.map Prod.fst := fun created' => apart created created'
    have unspent : id ∉ spent' := fun gone => kept created gone
    simp only [created, other, unspent, ↓reduceIte]
  · by_cases created' : id ∈ stored'.map Prod.fst
    · have unspent : id ∉ spent := fun gone => kept' created' gone
      simp only [created, created', unspent, ↓reduceIte]
    · simp only [created, created', ↓reduceIte]
      split_ifs <;> rfl

/-- What a ledger takes it still takes after an update under another anchor that spends none of it. -/
theorem Takes.update (takes : ledger.Takes anchor spent) (different : anchor ≠ anchor')
    (apart : spent.Disjoint spent') : (ledger.update anchor' spent' stored').Takes anchor spent where
  fresh := by
    rw [anchors_update, List.mem_append, List.mem_singleton, not_or]
    exact ⟨takes.fresh, different⟩
  stored id mem gone := apart mem (mem_spent_of_update (takes.stored id mem) gone)
  nodup := takes.nodup

/-- What a new request creates is spent by no request that the ledger takes. -/
theorem Accounted.created_disjoint_spent (books : ledger.Accounted)
    (takes : ledger.Takes anchor spent) (takes' : ledger.Takes anchor' spent')
    (outputs : List (Token P)) : ((created anchor outputs).map Prod.fst).Disjoint spent' :=
  fun _ made gone => books.new_of_takes takes made (books.unspent_of_takes takes' gone).1

/-- Requests under different anchors create different ids. -/
theorem created_disjoint_created (different : anchor ≠ anchor') {outputs outputs' : List (Token P)} :
    ((created anchor outputs).map Prod.fst).Disjoint ((created anchor' outputs').map Prod.fst) :=
  fun _ made made' => different ((txId_of_mem_created made).symm.trans (txId_of_mem_created made'))

/-! ## Two requests -/

section

variable {issues issues' : List (IssueAction P)} {transfers transfers' : List (TransferAction P)}
  {made made' : List TokenId} {after after' : Ledger}

/-- A request that was applicable before another is applicable after it if they spend nothing in
common. -/
theorem perform_apply_of_apart (different : anchor' ≠ anchor)
    (applied : (apply anchor issues transfers).perform ledger = (.ok made, after))
    (applied' : (apply anchor' issues' transfers').perform ledger = (.ok made', after'))
    (apart : (transfers'.flatMap TransferAction.inputIds).Disjoint
      (transfers.flatMap TransferAction.inputIds)) :
    (apply anchor' issues' transfers').perform after = (.ok made',
      after.update anchor' (transfers'.flatMap TransferAction.inputIds)
        (created anchor' (outputsOf issues' transfers'))) := by
  obtain ⟨-, -, -, rfl⟩ := perform_apply_eq_ok_iff.mp applied
  obtain ⟨takes', storable', rfl, -⟩ := perform_apply_eq_ok_iff.mp applied'
  exact perform_apply_eq_ok_iff.mpr ⟨takes'.update different apart, storable', rfl, rfl⟩

/-- A request is refused after another that has spent one of its inputs, and the ledger stays as it
is. -/
theorem Accounted.perform_apply_after (books : ledger.Accounted)
    (applied : (apply anchor issues transfers).perform ledger = (.ok made, after)) {id : TokenId}
    (spent : id ∈ transfers.flatMap TransferAction.inputIds)
    (again : id ∈ transfers'.flatMap TransferAction.inputIds) :
    ∃ e, (apply anchor' issues' transfers').perform after = (.error e, after) := by
  obtain ⟨takes, -, -, left⟩ := perform_apply_eq_ok_iff.mp applied
  cases repeated : (apply anchor' issues' transfers').perform after with
  | mk verdict after' =>
    cases verdict with
    | error e =>
      obtain rfl := apply_atomic _ _ _ repeated
      exact ⟨e, rfl⟩
    | ok made' =>
      obtain ⟨takes', -, -, -⟩ := perform_apply_eq_ok_iff.mp repeated
      have apart : id ∉ (created anchor (outputsOf issues transfers)).map Prod.fst := fun made =>
        books.created_disjoint_spent takes takes _ made spent
      have gone : after.state? id = none := left ▸ state?_update_eq_none spent apart
      exact absurd gone (takes'.stored id again)

/-- Of two requests that a ledger would apply under different anchors, each is applicable after the
other if they spend nothing in common. The order does not matter then: each creates the same ids, and the
ledger ends with the same unspent ids and the same bytes under them. If they spend an id in common, none
is applicable after the other, and trying changes nothing. -/
theorem commute_or_exclude {time : UInt64} {calls : List (Call P)}
    (reached : ledger = afterCalls time calls) (different : anchor ≠ anchor')
    (applied : (apply anchor issues transfers).perform ledger = (.ok made, after))
    (applied' : (apply anchor' issues' transfers').perform ledger = (.ok made', after')) :
    ((∀ id ∈ transfers.flatMap TransferAction.inputIds,
        id ∉ transfers'.flatMap TransferAction.inputIds) →
      ∃ both both', (apply anchor' issues' transfers').perform after = (.ok made', both) ∧
        (apply anchor issues transfers).perform after' = (.ok made, both') ∧
        both.unspent = both'.unspent ∧ ∀ id, both.state? id = both'.state? id) ∧
    ((∃ id ∈ transfers.flatMap TransferAction.inputIds,
        id ∈ transfers'.flatMap TransferAction.inputIds) →
      (∃ e, (apply anchor' issues' transfers').perform after = (.error e, after)) ∧
      ∃ e, (apply anchor issues transfers).perform after' = (.error e, after')) := by
  have books : ledger.Accounted := reached ▸ .afterCalls time calls
  constructor
  · intro apart
    have second := perform_apply_of_apart different.symm applied applied' fun id mem' mem => apart id mem mem'
    have second' := perform_apply_of_apart different applied' applied fun id mem mem' => apart id mem mem'
    refine ⟨_, _, second, second', ?_⟩
    obtain ⟨takes, -, -, rfl⟩ := perform_apply_eq_ok_iff.mp applied
    obtain ⟨takes', -, -, rfl⟩ := perform_apply_eq_ok_iff.mp applied'
    have same := tokens_update_comm ledger anchor anchor'
      (created_disjoint_created different)
      (books.created_disjoint_spent takes takes' (outputsOf issues transfers))
      (books.created_disjoint_spent takes' takes (outputsOf issues' transfers'))
    exact ⟨congrArg SortedMap.keys same, fun id => congrArg (SortedMap.get? · id) same⟩
  · rintro ⟨id, spent, spent'⟩
    exact ⟨books.perform_apply_after applied spent spent',
      books.perform_apply_after applied' spent' spent⟩

end

end ConfidentialToken.Ledger

namespace ConfidentialToken.Plain

open Ledger

/-! ## Two tokens given back -/

/-- A ledger on which the token of the swap was issued twice. -/
def twoLocked : Ledger :=
  afterCalls 0 [.apply "mint" [issue sender.identity [locked, locked]] [] (by decide)]

/-- A transfer that gives one of the tokens back. The ledger asks for no proof and no signature. -/
def giveBackOne (index : UInt64) : TransferAction Plain :=
  ⟨[⟨⟨"mint", index⟩, locked⟩], [⟨sender.identity, locked.data⟩], [], .empty, []⟩

/-- The ledger after one of the tokens was given back. -/
def afterOne (anchor : String) (index : UInt64) : Ledger :=
  twoLocked.update anchor (giveBackOne index).inputIds (created anchor (giveBackOne index).outputs)

set_option maxRecDepth 4096 in
theorem storable_giveBackOne (index : UInt64) :
    Storable (Ledger.outputsOf [] [giveBackOne index]) := by
  have short : (⟨sender.identity, locked.data⟩ : Token Plain).toBytes.length ≤ Wire.sizeLimit := by
    decide
  exact List.forall_mem_singleton.mpr fun _ => short

/-- Each of the tokens can be given back under a new anchor. -/
theorem perform_apply_giveBackOne {anchor : String} {index : UInt64}
    (fresh : anchor ∉ twoLocked.history.map LedgerEvent.anchor)
    (stored : twoLocked.state? ⟨"mint", index⟩ ≠ none) :
    (apply anchor [] [giveBackOne index]).perform twoLocked =
      (.ok [⟨anchor, 0⟩], afterOne anchor index) := by
  refine perform_apply_eq_ok_iff.mpr ⟨⟨fresh, ?_, ?_⟩, storable_giveBackOne index, rfl, rfl⟩
  · exact List.forall_mem_singleton.mpr stored
  · exact List.nodup_singleton _

set_option maxRecDepth 4096 in
/-- One can give back both tokens in either order, and none of them twice. -/
theorem giveBack_one_of_each_or_one_twice :
    (∃ both both',
      (apply "b" [] [giveBackOne 1]).perform (afterOne "a" 0) = (.ok [⟨"b", 0⟩], both) ∧
      (apply "a" [] [giveBackOne 0]).perform (afterOne "b" 1) = (.ok [⟨"a", 0⟩], both') ∧
      both.unspent = both'.unspent ∧ ∀ id, both.state? id = both'.state? id) ∧
    (∃ e, (apply "b" [] [giveBackOne 0]).perform (afterOne "a" 0) = (.error e, afterOne "a" 0)) ∧
    ∃ e, (apply "a" [] [giveBackOne 0]).perform (afterOne "b" 0) = (.error e, afterOne "b" 0) := by
  have first : twoLocked.state? ⟨"mint", 0⟩ ≠ none := by decide
  have second : twoLocked.state? ⟨"mint", 1⟩ ≠ none := by decide
  have fresh : "a" ∉ twoLocked.history.map LedgerEvent.anchor := by decide
  have fresh' : "b" ∉ twoLocked.history.map LedgerEvent.anchor := by decide
  have different : "a" ≠ "b" := by decide
  have reached : twoLocked = afterCalls 0
      [.apply "mint" [issue sender.identity [locked, locked]] [] (by decide)] := rfl
  have commute := commute_or_exclude reached different (perform_apply_giveBackOne fresh first)
    (perform_apply_giveBackOne fresh' second)
  have exclude := commute_or_exclude reached different (perform_apply_giveBackOne fresh first)
    (perform_apply_giveBackOne fresh' first)
  refine ⟨commute.1 (by decide), exclude.2 ⟨⟨"mint", 0⟩, by decide⟩⟩

end ConfidentialToken.Plain
