import ConfidentialToken.Proofs.Ledger.Run

/-!
# Consistent ledgers

What holds of every ledger that a run reaches: the request that made a token is in the history, and
the token's bytes can be read as a token that somebody owns. So the ids of a new request are fresh, and
what a ledger holds has a meaning.
-/

namespace ConfidentialToken

namespace Ledger

variable {P : Type} [PointGroup P]

/-! ## Created tokens -/

/-- As long as 64 bits number the outputs, the created ids ascend. -/
theorem ascending_created {anchor : String} {outputs : List (Token P)} (few : outputs.length < UInt64.size) :
    ((created anchor outputs).map Prod.fst).Pairwise fun x y => x.index < y.index := by
  have numbers : (withPositions outputs).Pairwise fun x y => x.1 < y.1 := by
    rw [← List.pairwise_map (f := Prod.fst), map_fst_withPositions]
    exact List.pairwise_lt_range
  have below : ∀ entry ∈ withPositions outputs, entry.1 < UInt64.size := fun entry mem =>
    (List.getElem?_eq_some_iff.mp (getElem?_of_mem_withPositions mem)).1.trans few
  unfold created
  rw [List.map_map, List.pairwise_map]
  refine List.Pairwise.filter _ (numbers.imp_of_mem fun {x y} hx hy less => ?_)
  show UInt64.ofNat x.1 < UInt64.ofNat y.1
  rw [UInt64.lt_iff_toNat_lt, UInt64.toNat_ofNat_of_lt' (below x hx),
    UInt64.toNat_ofNat_of_lt' (below y hy)]
  exact less

/-- So no id is given twice. -/
theorem nodup_created {anchor : String} {outputs : List (Token P)}
    (few : outputs.length < UInt64.size) : ((created anchor outputs).map Prod.fst).Nodup :=
  (ascending_created few).imp fun {x y} less (same : x = y) =>
    UInt64.lt_irrefl y.index (same ▸ less)

/-- A token whose bytes are stored is there. -/
theorem token?_eq_some [PointGroup.LawfulEncoding P] {ledger : Ledger} {id : TokenId}
    {token : Token P} (stored : ledger.state? id = some token.toBytes) (fits : token.Fits) :
    ledger.token? id = some token := by
  rw [token?, stored, Option.bind_eq_bind, Option.bind_some, Token.ofBytes_toBytes fits]
  rfl

/-- A ledger whose tokens were made by requests in its history, have owners and can be read. -/
structure Consistent (P : Type) [PointGroup P] (ledger : Ledger) : Prop where
  anchored : ∀ id, ledger.state? id ≠ none → id.txId ∈ ledger.history.map LedgerEvent.anchor
  readable : ∀ id bytes, ledger.state? id = some bytes → ∃ token : Token P,
    token.isRedeemed = false ∧ token.Fits ∧ bytes = token.toBytes

namespace Consistent

variable {ledger : Ledger}

theorem empty (time : UInt64) : Consistent P (.empty time) where
  anchored _ there := absurd rfl there
  readable _ _ there := nomatch there

theorem setTime (h : Consistent P ledger) (time : UInt64) : Consistent P (ledger.setTime time) :=
  ⟨h.anchored, h.readable⟩

/-- Tokens that a new request would make are not there yet. -/
theorem fresh (h : Consistent P ledger) {anchor : String} {spent : List TokenId}
    (takes : ledger.Takes anchor spent) {outputs : List (Token P)} :
    ∀ entry ∈ created anchor outputs, ledger.state? entry.1 = none := by
  rintro ⟨id, bytes⟩ mem
  obtain ⟨index, token, -, -, rfl, -⟩ := mem_created_iff.mp mem
  by_contra there
  exact takes.fresh (h.anchored _ there)

/-- Taking actions whose outputs can be read keeps a ledger consistent. -/
theorem update (h : Consistent P ledger) {anchor : String} {spent : List TokenId}
    {outputs : List (Token P)} (fits : ∀ output ∈ outputs, output.isRedeemed = false → output.Fits) :
    Consistent P (ledger.update anchor spent (created anchor outputs)) := by
  constructor
  · -- a token was there before, under an anchor of the old history, or it has the new one
    intro id there
    obtain ⟨bytes, there⟩ := Option.ne_none_iff_exists'.mp there
    rw [anchors_update]
    rcases state?_or_mem_of_update there with before | mem
    · exact List.mem_append_left _ (h.anchored id (before ▸ nofun))
    · obtain ⟨index, token, -, -, rfl, -⟩ := mem_created_iff.mp mem
      exact List.mem_append_right _ (List.mem_singleton_self _)
  · intro id bytes there
    rcases state?_or_mem_of_update there with before | mem
    · exact h.readable id bytes before
    · obtain ⟨index, token, listed, owned, -, rfl⟩ := mem_created_iff.mp mem
      exact ⟨token, owned, fits token (mem_of_mem_withPositions listed) owned, rfl⟩

end Consistent

end Ledger

variable {P : Type} [Suite P]

/-- A submission that goes through keeps the ledger consistent. -/
theorem Applied.GoesThrough.consistent {applied : Applied P} {ledger : Ledger} {message : Bytes}
    (through : applied.GoesThrough ledger message) (h : ledger.Consistent P) :
    (applied.result ledger).Consistent P :=
  h.update fun output mem _ => through.acceptable.outputs_fit output mem

/-- Every ledger that a run reaches is consistent. -/
theorem Run.consistent_after (time : UInt64) (events : List (Event P)) :
    (after time events).ledger.Consistent P := by
  refine after_induction (Q := fun run => run.ledger.Consistent P) ?_ ?_ ?_ events
  · exact Ledger.Consistent.empty time
  · intro run now h
    exact h.setTime now
  · intro run applied message through h
    exact through.consistent h

end ConfidentialToken
