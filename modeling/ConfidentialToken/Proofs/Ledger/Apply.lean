import ConfidentialToken.Ledger
import ConfidentialToken.Proofs.Positions
import ConfidentialToken.Proofs.SortedMap
import ConfidentialToken.Proofs.Task.Failure

/-!
# Applying actions

When the ledger takes the actions of a request, and what becomes of its tokens: those spent are taken
out and those created are put in, and nothing else is touched. Applying them changes the ledger in
steps, and no step comes before a check, so that a ledger which refuses them is as it was
(`Ledger.apply_atomic`). That the created ids are fresh is shown of ledgers that a run reaches, not here.
-/

namespace ConfidentialToken

theorem firstRepeated?_eq_none_iff {α : Type} [DecidableEq α] {seen items : List α} :
    firstRepeated? seen items = none ↔ items.Nodup ∧ seen.Disjoint items := by
  induction items generalizing seen with
  | nil => exact ⟨fun _ => ⟨List.nodup_nil, List.disjoint_nil_right _⟩, fun _ => rfl⟩
  | cons item rest ih =>
    unfold firstRepeated?
    split
    · next mem =>
      refine ⟨nofun, fun ⟨_, disjoint⟩ => ?_⟩
      exact absurd List.mem_cons_self (disjoint mem)
    · next notMem =>
      rw [ih, List.nodup_cons, List.disjoint_cons_left, List.disjoint_cons_right]
      tauto

namespace Ledger

variable {P : Type} [PointGroup P] {ledger after : Ledger} {anchor : String}
  {issues : List (IssueAction P)} {transfers : List (TransferAction P)}
  {made : List TokenId}

theorem mem_created_iff {anchor : String} {outputs : List (Token P)} {id : TokenId} {bytes : Bytes} :
    (id, bytes) ∈ created anchor outputs ↔ ∃ index token, (index, token) ∈ withPositions outputs ∧
      token.isRedeemed = false ∧ id = ⟨anchor, UInt64.ofNat index⟩ ∧ bytes = token.toBytes := by
  unfold created
  simp only [List.mem_map, List.mem_filter, Prod.exists, Prod.mk.injEq, Bool.not_eq_true']
  constructor
  · rintro ⟨index, token, ⟨mem, owned⟩, rfl, rfl⟩
    exact ⟨index, token, mem, owned, rfl, rfl⟩
  · rintro ⟨index, token, mem, owned, rfl, rfl⟩
    exact ⟨index, token, ⟨mem, owned⟩, rfl, rfl⟩

/-- Outputs can be stored when the bytes of each that somebody owns are within the size limit. -/
def Storable (outputs : List (Token P)) : Prop :=
  ∀ output ∈ outputs, output.isRedeemed = false → output.toBytes.length ≤ Wire.sizeLimit

/-- A ledger takes actions when their anchor is new and they spend tokens that are there, each once. -/
structure Takes (ledger : Ledger) (anchor : String) (spent : List TokenId) : Prop where
  fresh : anchor ∉ ledger.history.map LedgerEvent.anchor
  stored : ∀ id ∈ spent, ledger.state? id ≠ none
  nodup : spent.Nodup

/-- Spends ids and stores tokens under an anchor. -/
def update (ledger : Ledger) (anchor : String) (spent : List TokenId)
    (created : List (TokenId × Bytes)) : Ledger :=
  ((ledger.spend spent).store created).record ⟨anchor, created.map (·.1), spent⟩

theorem checkSizes_eq_ok_iff {outputs : List (Token P)} :
    checkSizes (created anchor outputs) = .ok () ↔ Storable outputs := by
  unfold checkSizes
  simp only [Outcome.forM_eq_ok_iff, Outcome.require_eq_ok_iff, decide_eq_true_eq, Prod.forall]
  constructor
  · intro short output mem owned
    rw [← map_snd_withPositions outputs] at mem
    obtain ⟨⟨index, _⟩, listed, rfl⟩ := List.mem_map.mp mem
    exact short _ _ (mem_created_iff.mpr ⟨index, _, listed, owned, rfl, rfl⟩)
  · rintro storable id bytes mem
    obtain ⟨index, output, listed, owned, -, rfl⟩ := mem_created_iff.mp mem
    exact storable output (mem_of_mem_withPositions listed) owned

/-- A ledger that refuses actions is as it was: every check stands before the first change. -/
theorem apply_atomic : (apply anchor issues transfers).Atomic := by
  unfold apply
  refine .get_bind fun ledger => .guard_bind ?_
  dsimp only
  split
  · exact .throw _
  · split
    · exact .throw _
    · exact .lift_bind fun _ _ => .of_succeeds fun _ => ⟨_, _, rfl⟩

/-- A ledger applies actions exactly when it takes them and can store their outputs. -/
theorem perform_apply_eq_ok_iff :
    (apply anchor issues transfers).perform ledger = (.ok made, after) ↔
      ledger.Takes anchor (transfers.flatMap TransferAction.inputIds) ∧
      Storable (outputsOf issues transfers) ∧
      made = (created anchor (outputsOf issues transfers)).map (·.1) ∧
      after = ledger.update anchor (transfers.flatMap TransferAction.inputIds)
        (created anchor (outputsOf issues transfers)) := by
  have known : ledger.history.any (·.anchor = anchor) = false ↔
      anchor ∉ ledger.history.map LedgerEvent.anchor := by
    simp
  have missing : (transfers.flatMap TransferAction.inputIds).find? (!ledger.tokens.contains ·) =
      none ↔ ∀ id ∈ transfers.flatMap TransferAction.inputIds, ledger.state? id ≠ none := by
    simp only [List.find?_eq_none, Bool.not_eq_true', Bool.not_eq_false, SortedMap.contains,
      Option.isSome_iff_ne_none]
    rfl
  have repeated : firstRepeated? [] (transfers.flatMap TransferAction.inputIds) = none ↔
      (transfers.flatMap TransferAction.inputIds).Nodup := by
    rw [firstRepeated?_eq_none_iff, and_iff_left (List.disjoint_nil_left _)]
  unfold apply
  rw [Task.perform_get_bind]
  constructor
  · intro applied
    split at applied
    · cases applied
    · next new =>
      dsimp only at applied
      split at applied
      · cases applied
      · next found =>
        split at applied
        · cases applied
        · next once =>
          obtain ⟨_, _, sized, applied⟩ := Task.perform_bind.mp applied
          obtain ⟨short, rfl⟩ := Task.perform_lift.mp sized
          cases applied
          exact ⟨⟨known.mp (eq_false_of_ne_true new), missing.mp found, repeated.mp once⟩,
            checkSizes_eq_ok_iff.mp short, rfl, rfl⟩
  · rintro ⟨⟨fresh, stored, nodup⟩, storable, rfl, rfl⟩
    rw [if_neg (ne_true_of_eq_false (known.mpr fresh))]
    simp only [missing.mpr stored, repeated.mpr nodup, checkSizes_eq_ok_iff.mpr storable,
      Task.lift_ok_bind]
    rfl

/-! ## The tokens after -/

@[simp] theorem history_update {spent : List TokenId} {stored : List (TokenId × Bytes)} :
    (ledger.update anchor spent stored).history =
      ledger.history ++ [⟨anchor, stored.map Prod.fst, spent⟩] :=
  rfl

theorem anchors_update {spent : List TokenId} {stored : List (TokenId × Bytes)} :
    (ledger.update anchor spent stored).history.map LedgerEvent.anchor =
      ledger.history.map LedgerEvent.anchor ++ [anchor] :=
  List.map_append

/-- What is there before and gone after was spent. -/
theorem mem_spent_of_update {spent : List TokenId} {stored : List (TokenId × Bytes)} {id : TokenId}
    (before : ledger.state? id ≠ none)
    (gone : (ledger.update anchor spent stored).state? id = none) : id ∈ spent := by
  by_contra notMem
  refine SortedMap.get?_foldl_insert_ne_none (fun erased => before ?_) gone
  exact (SortedMap.get?_foldl_erase notMem).symm.trans erased

/-- What is spent is gone, unless it is created at once. -/
theorem state?_update_eq_none {spent : List TokenId} {stored : List (TokenId × Bytes)} {id : TokenId}
    (mem : id ∈ spent) (apart : id ∉ stored.map Prod.fst) :
    (ledger.update anchor spent stored).state? id = none :=
  (SortedMap.get?_foldl_insert apart).trans (SortedMap.get?_foldl_erase_of_mem mem)

/-- What is neither spent nor created stays as it is. -/
theorem state?_update {spent : List TokenId} {stored : List (TokenId × Bytes)} {id : TokenId}
    (kept : id ∉ spent) (apart : id ∉ stored.map Prod.fst) :
    (ledger.update anchor spent stored).state? id = ledger.state? id :=
  (SortedMap.get?_foldl_insert apart).trans (SortedMap.get?_foldl_erase kept)

/-- What is created once is there with its bytes. -/
theorem state?_update_of_mem {spent : List TokenId} {stored : List (TokenId × Bytes)} {id : TokenId}
    {bytes : Bytes} (nodup : (stored.map Prod.fst).Nodup) (mem : (id, bytes) ∈ stored) :
    (ledger.update anchor spent stored).state? id = some bytes :=
  SortedMap.get?_foldl_insert_of_nodup nodup mem

/-- What is there after was there before or was created. -/
theorem state?_or_mem_of_update {spent : List TokenId} {stored : List (TokenId × Bytes)}
    {id : TokenId} {bytes : Bytes}
    (there : (ledger.update anchor spent stored).state? id = some bytes) :
    ledger.state? id = some bytes ∨ (id, bytes) ∈ stored :=
  (SortedMap.get?_or_mem_of_foldl_insert there).imp_left SortedMap.get?_of_foldl_erase

theorem mem_unspent_iff {id : TokenId} : id ∈ ledger.unspent ↔ ledger.state? id ≠ none := by
  unfold unspent state?
  rw [ne_eq, SortedMap.get?_eq_none_iff, not_not]

/-- The unspent ids after are those before without the spent, and the created. -/
theorem mem_unspent_update {spent : List TokenId} {stored : List (TokenId × Bytes)} {id : TokenId} :
    id ∈ (ledger.update anchor spent stored).unspent ↔
      (id ∈ ledger.unspent ∧ id ∉ spent) ∨ id ∈ stored.map Prod.fst := by
  simp only [mem_unspent_iff]
  constructor
  · intro there
    obtain ⟨bytes, there⟩ := Option.ne_none_iff_exists'.mp there
    by_cases created : id ∈ stored.map Prod.fst
    · exact .inr created
    · refine .inl ⟨?_, fun mem => ?_⟩
      · rcases state?_or_mem_of_update there with before | mem
        · exact before ▸ nofun
        · exact absurd (List.mem_map_of_mem mem) created
      · exact nomatch (state?_update_eq_none mem created).symm.trans there
  · rintro (⟨before, notMem⟩ | created)
    · exact fun gone => notMem (mem_spent_of_update before gone)
    · exact SortedMap.get?_foldl_insert_of_mem created

/-- Applying actions takes out the tokens that they spend and puts in those that they create. -/
theorem update_perm {spent stored : List (TokenId × Bytes)} (distinct : (spent.map Prod.fst).Nodup)
    (found : ∀ entry ∈ spent, ledger.state? entry.1 = some entry.2)
    (apart : (stored.map Prod.fst).Nodup) (fresh : ∀ entry ∈ stored, ledger.state? entry.1 = none) :
    (spent ++ (ledger.update anchor (spent.map Prod.fst) stored).tokens.entries).Perm
      (stored ++ ledger.tokens.entries) := by
  have fresh' : ∀ entry ∈ stored,
      ((spent.map Prod.fst).foldl SortedMap.erase ledger.tokens).get? entry.1 = none :=
    fun entry mem => Option.eq_none_iff_forall_ne_some.mpr fun _ there =>
      nomatch (SortedMap.get?_of_foldl_erase there).symm.trans (fresh entry mem)
  -- fresh ids are fresh after the erasures too, so insertion adds to what erasure leaves
  have inserted := (SortedMap.foldl_insert_perm apart fresh').append_left spent
  have erased := (SortedMap.foldl_erase_perm distinct found).append_left stored
  refine inserted.trans (List.Perm.trans ?_ erased.symm)
  rw [← List.append_assoc, ← List.append_assoc]
  exact List.perm_append_comm.append_right _

end Ledger

end ConfidentialToken
