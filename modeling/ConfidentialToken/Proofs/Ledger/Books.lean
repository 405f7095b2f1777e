import ConfidentialToken.Proofs.Ledger.Calls
import ConfidentialToken.Proofs.Suite.Requests

/-!
# The books of a ledger

Whatever calls are made on a ledger, its history accounts for its tokens: an id is created once, under
the anchor of the event that created it, it is spent at most once and only by a later event, and the
unspent ids are those created and not spent. The accounting rests on 64 bits being able to number the
outputs, and on nothing else. That stored bytes can be read rests on the encoding of points.
-/

namespace ConfidentialToken

namespace Ledger

/-! ## Accounts -/

/-- All ids that the history of a ledger created, event by event. -/
def everCreated (ledger : Ledger) : List TokenId := ledger.history.flatMap LedgerEvent.created

/-- All ids that the history of a ledger spent, event by event. -/
def everSpent (ledger : Ledger) : List TokenId := ledger.history.flatMap LedgerEvent.spent

/-- A ledger's history accounts for its unspent tokens. -/
structure Accounted (ledger : Ledger) : Prop where
  anchors : (ledger.history.map LedgerEvent.anchor).Nodup
  createdOnce : ledger.everCreated.Nodup
  spentOnce : ledger.everSpent.Nodup
  /-- What an event spends was created by an event strictly before it. -/
  spentLater : ∀ before event after, ledger.history = before ++ event :: after →
    ∀ id ∈ event.spent, ∃ earlier ∈ before, id ∈ earlier.created
  unspent_iff : ∀ id, id ∈ ledger.unspent ↔ id ∈ ledger.everCreated ∧ id ∉ ledger.everSpent
  anchored : ∀ event ∈ ledger.history, ∀ id ∈ event.created, id.txId = event.anchor

variable {P : Type} [PointGroup P] {ledger : Ledger} {anchor : String} {spent : List TokenId}
  {outputs : List (Token P)}

theorem everCreated_update :
    (ledger.update anchor spent (created anchor outputs)).everCreated =
      ledger.everCreated ++ (created anchor outputs).map Prod.fst := by
  simp only [everCreated, history_update, List.flatMap_append, List.flatMap_singleton]

theorem everSpent_update :
    (ledger.update anchor spent (created anchor outputs)).everSpent = ledger.everSpent ++ spent := by
  simp only [everSpent, history_update, List.flatMap_append, List.flatMap_singleton]

theorem txId_of_mem_created {id : TokenId} (mem : id ∈ (created anchor outputs).map Prod.fst) :
    id.txId = anchor := by
  obtain ⟨⟨_, bytes⟩, entry, rfl⟩ := List.mem_map.mp mem
  obtain ⟨index, token, -, -, rfl, -⟩ := mem_created_iff.mp entry
  rfl

namespace Accounted

theorem empty (time : UInt64) : Accounted (.empty time) where
  anchors := List.nodup_nil
  createdOnce := List.nodup_nil
  spentOnce := List.nodup_nil
  spentLater before event after split := by simp [Ledger.empty] at split
  unspent_iff _ := ⟨nofun, fun ⟨mem, _⟩ => nomatch mem⟩
  anchored := nofun

theorem setTime (h : ledger.Accounted) (time : UInt64) : (ledger.setTime time).Accounted :=
  ⟨h.anchors, h.createdOnce, h.spentOnce, h.spentLater, h.unspent_iff, h.anchored⟩

/-- What was spent was created. -/
theorem mem_everCreated_of_mem_everSpent (h : ledger.Accounted) {id : TokenId}
    (mem : id ∈ ledger.everSpent) : id ∈ ledger.everCreated := by
  obtain ⟨event, listed, mem⟩ := List.mem_flatMap.mp mem
  obtain ⟨before, after, split⟩ := List.append_of_mem listed
  obtain ⟨earlier, listed, mem⟩ := h.spentLater before event after split id mem
  refine List.mem_flatMap.mpr ⟨earlier, ?_, mem⟩
  rw [split]
  exact List.mem_append_left _ listed

/-- An id under a new anchor was not created before. -/
theorem not_mem_everCreated (h : ledger.Accounted) {id : TokenId}
    (fresh : id.txId ∉ ledger.history.map LedgerEvent.anchor) : id ∉ ledger.everCreated := by
  intro mem
  obtain ⟨event, listed, mem⟩ := List.mem_flatMap.mp mem
  apply fresh
  rw [h.anchored event listed id mem]
  exact List.mem_map_of_mem listed

/-- What a ledger takes was created and not yet spent. -/
theorem unspent_of_takes (h : ledger.Accounted) (takes : ledger.Takes anchor spent) {id : TokenId}
    (mem : id ∈ spent) : id ∈ ledger.everCreated ∧ id ∉ ledger.everSpent := by
  rw [← h.unspent_iff, mem_unspent_iff]
  exact takes.stored id mem

/-- What is created under a new anchor was not created before. -/
theorem new_of_takes (h : ledger.Accounted) (takes : ledger.Takes anchor spent) {id : TokenId}
    (mem : id ∈ (created anchor outputs).map Prod.fst) : id ∉ ledger.everCreated := by
  apply h.not_mem_everCreated
  rw [txId_of_mem_created mem]
  exact takes.fresh

/-- Applying actions keeps the books, as long as 64 bits number the outputs. -/
theorem update (h : ledger.Accounted) (takes : ledger.Takes anchor spent)
    (few : outputs.length < UInt64.size) :
    (ledger.update anchor spent (created anchor outputs)).Accounted where
  anchors := by
    rw [anchors_update, ← List.concat_eq_append]
    exact h.anchors.concat takes.fresh
  createdOnce := by
    rw [everCreated_update]
    exact h.createdOnce.append (nodup_created few) fun _ old mem => h.new_of_takes takes mem old
  spentOnce := by
    rw [everSpent_update]
    exact h.spentOnce.append takes.nodup fun _ old mem => (h.unspent_of_takes takes mem).2 old
  spentLater before event after split id mem := by
    -- the event is the new one, or the new one comes after it
    rcases List.eq_nil_or_concat after with rfl | ⟨rest, last, rfl⟩
    · obtain ⟨rfl, last⟩ := List.append_inj' split rfl
      obtain rfl := (List.cons.inj last).1
      exact List.mem_flatMap.mp (h.unspent_of_takes takes mem).1
    · rw [List.concat_eq_append] at split
      have split : ledger.history ++ [⟨anchor, (created anchor outputs).map Prod.fst, spent⟩] =
          (before ++ event :: rest) ++ [last] := by
        rw [List.append_assoc, List.cons_append]
        exact split
      exact h.spentLater before event rest (List.append_inj' split rfl).1 id mem
  unspent_iff id := by
    rw [mem_unspent_update, everCreated_update, everSpent_update, List.mem_append, List.mem_append,
      h.unspent_iff]
    have unused : id ∈ (created anchor outputs).map Prod.fst →
        id ∉ ledger.everSpent ∧ id ∉ spent := by
      intro mem
      have new := h.new_of_takes takes mem
      exact ⟨fun old => new (h.mem_everCreated_of_mem_everSpent old),
        fun old => new (h.unspent_of_takes takes old).1⟩
    tauto
  anchored event listed id mem := by
    rcases List.mem_append.mp listed with old | last
    · exact h.anchored event old id mem
    · obtain rfl := List.mem_singleton.mp last
      exact txId_of_mem_created mem

end Accounted

/-! ## After calls -/

theorem Accounted.afterCalls (time : UInt64) (calls : List (Call P)) :
    (afterCalls time calls).Accounted := by
  refine afterCalls_induction (.empty time) ?_ ?_ calls
  · intro ledger now h
    exact h.setTime now
  · intro ledger anchor spent outputs takes _ few h
    exact h.update takes few

/-- After any calls the history accounts for the tokens, and every stored token can be read and has an
owner, so that there is a token wherever there are bytes. -/
theorem accounted_after [PointGroup.LawfulEncoding P] (time : UInt64) (calls : List (Call P)) :
    (afterCalls time calls).Accounted ∧
    (∀ id bytes, (afterCalls time calls).state? id = some bytes →
      ∃ token : Token P, Token.ofBytes bytes = .ok token ∧ token.isRedeemed = false) ∧
    ∀ id, ((afterCalls time calls).token? id : Option (Token P)).isSome =
      ((afterCalls time calls).state? id).isSome := by
  have readable : ∀ id bytes, (Ledger.afterCalls time calls).state? id = some bytes →
      ∃ token : Token P, Token.ofBytes bytes = .ok token ∧ token.isRedeemed = false := by
    intro id bytes there
    obtain ⟨token, owned, fits, rfl⟩ := (Consistent.afterCalls time calls).readable id bytes there
    exact ⟨token, Token.ofBytes_toBytes fits, owned⟩
  refine ⟨.afterCalls time calls, readable, ?_⟩
  intro id
  cases there : (Ledger.afterCalls time calls).state? id with
  | none => rw [token?, there]; rfl
  | some bytes =>
    obtain ⟨token, read, -⟩ := readable id bytes there
    rw [token?, there, Option.bind_eq_bind, Option.bind_some, read]
    rfl

end Ledger

namespace Plain

/-- The calls that issue the token of the swap, issue it again in vain, and give it back to the sender
without a validator having been asked. -/
def swapCalls : List (Ledger.Call Plain) :=
  [.apply "mint" [issue sender.identity [locked]] [] (by decide),
    .apply "mint" [issue sender.identity [locked]] [] (by decide),
    .setTime 10,
    .apply "reclaim" [] [giveBack] (by decide)]

set_option maxRecDepth 4096 in
/-- Of the calls that issue the token and give it back, the history tells of two. -/
theorem accounted_swapCalls :
    (Ledger.afterCalls 0 swapCalls).history =
      [⟨"mint", [lockedId], []⟩, ⟨"reclaim", [⟨"reclaim", 0⟩], [lockedId]⟩] ∧
    (Ledger.afterCalls 0 swapCalls).Accounted ∧
    (∀ id bytes, (Ledger.afterCalls 0 swapCalls).state? id = some bytes →
      ∃ token : Token Plain, Token.ofBytes bytes = .ok token ∧ token.isRedeemed = false) ∧
    ∀ id, ((Ledger.afterCalls 0 swapCalls).token? id : Option (Token Plain)).isSome =
      ((Ledger.afterCalls 0 swapCalls).state? id).isSome :=
  ⟨by decide, Ledger.accounted_after 0 swapCalls⟩

end Plain

end ConfidentialToken
