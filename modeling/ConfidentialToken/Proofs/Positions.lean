import ConfidentialToken.Proofs.Task

/-!
# Entries with their positions

Checks and readers go over the entries of a list with their positions only to name them in errors;
these laws take the positions away again. With them are the laws of lists about places, related entries
and numbers of entries that Mathlib does not have in this form.
-/

namespace ConfidentialToken

variable {α β : Type} (items : List α)

theorem map_snd_withPositions : (withPositions items).map Prod.snd = items :=
  List.map_snd_zip (by simp)

theorem mem_of_mem_withPositions {items : List α} {index : Nat} {item : α}
    (listed : (index, item) ∈ withPositions items) : item ∈ items := by
  have mem : item ∈ (withPositions items).map Prod.snd := List.mem_map_of_mem listed
  rwa [map_snd_withPositions] at mem

/-- An entry stands where its position says. -/
theorem getElem?_of_mem_withPositions {items : List α} {index : Nat} {item : α}
    (listed : (index, item) ∈ withPositions items) : items[index]? = some item := by
  obtain ⟨place, there⟩ := List.mem_iff_getElem?.mp listed
  obtain ⟨numbered, found⟩ := List.getElem?_zip_eq_some.mp there
  obtain ⟨_, rfl⟩ := List.getElem?_eq_some_iff.mp numbered
  rw [List.getElem_range]
  exact found

theorem mem_withPositions_iff {items : List α} {index : Nat} {item : α} :
    (index, item) ∈ withPositions items ↔ items[index]? = some item := by
  refine ⟨getElem?_of_mem_withPositions, fun there => List.mem_iff_getElem?.mpr ⟨index, ?_⟩⟩
  have bound : index < items.length := (List.getElem?_eq_some_iff.mp there).1
  exact List.getElem?_zip_eq_some.mpr ⟨List.getElem?_range bound, there⟩

theorem mapIdx_eq_map_withPositions (f : Nat → α → β) :
    items.mapIdx f = (withPositions items).map fun (i, item) => f i item := by
  refine List.ext_getElem (by simp [withPositions]) fun i _ _ => ?_
  simp [withPositions]

theorem forall_mem_withPositions {Q : α → Prop} :
    (∀ entry ∈ withPositions items, Q entry.2) ↔ ∀ item ∈ items, Q item := by
  conv_rhs => rw [← map_snd_withPositions items]
  exact List.forall_mem_map.symm

/-- What holds of all pairs with their positions holds at each place of both lists. -/
theorem forall_mem_withPositions_zip {items : List α} {others : List β}
    {Q : Nat × α × β → Prop} :
    (∀ entry ∈ withPositions (items.zip others), Q entry) ↔
      ∀ i a b, items[i]? = some a → others[i]? = some b → Q (i, a, b) := by
  simp only [Prod.forall, mem_withPositions_iff, List.getElem?_zip_eq_some, and_imp]

/-- The pairs of two lists give some results that all have a property when each place of both does. -/
theorem exists_mapM_withPositions_zip_iff {γ : Type} {items : List α} {others : List β}
    {f : Nat × α × β → Outcome γ} {Q : γ → Prop} :
    (∃ results, (withPositions (items.zip others)).mapM f = .ok results ∧
      ∀ result ∈ results, Q result) ↔
    ∀ i a b, items[i]? = some a → others[i]? = some b → ∃ result, f (i, a, b) = .ok result ∧ Q result :=
  Outcome.exists_mapM_eq_ok_iff.trans forall_mem_withPositions_zip

/-- What holds of all that is made of pairs holds at each place of both lists. -/
theorem forall_mem_zipWith {γ : Type} {items : List α} {others : List β} {f : α → β → γ}
    {Q : γ → Prop} :
    (∀ result ∈ List.zipWith f items others, Q result) ↔
      ∀ (i : Nat) a b, items[i]? = some a → others[i]? = some b → Q (f a b) := by
  constructor
  · intro all i a b there other
    exact all _ (List.mem_of_getElem? (List.getElem?_zipWith_eq_some.mpr ⟨a, b, there, other, rfl⟩))
  · intro each result listed
    obtain ⟨i, at_i⟩ := List.mem_iff_getElem?.mp listed
    obtain ⟨a, b, there, other, rfl⟩ := List.getElem?_zipWith_eq_some.mp at_i
    exact each i a b there other

/-- What is in a place of the second of two related lists is related to what is in that place of the
first. -/
theorem exists_getElem?_of_forall₂ {R : α → β → Prop} {items : List α} {others : List β}
    (related : List.Forall₂ R items others) {k : Nat} {b : β}
    (there : others[k]? = some b) : ∃ a, items[k]? = some a ∧ R a b := by
  obtain ⟨bound, rfl⟩ := List.getElem?_eq_some_iff.mp there
  have bound' : k < items.length := related.length_eq ▸ bound
  exact ⟨_, List.getElem?_eq_getElem bound', related.get bound' bound⟩

/-- The entries in the first places of a list are those that it begins with. -/
theorem forall₂_range_getElem?_iff {n : Nat} {found : List α} :
    List.Forall₂ (fun i item => items[i]? = some item) (List.range n) found ↔
      n ≤ items.length ∧ items.take n = found := by
  constructor
  · intro each
    have length : n = found.length := by simpa using each.length_eq
    have place (i : Nat) (here : i < found.length) : items[i]? = some found[i] := by
      have here' : i < (List.range n).length := by simpa [length] using here
      simpa using each.get here' here
    have enough : n ≤ items.length := by
      by_contra fewer
      have here : items.length < found.length := by omega
      simpa using place items.length here
    refine ⟨enough, List.ext_getElem (by simp [length.symm, enough]) fun i _ here => ?_⟩
    rw [List.getElem_take]
    exact Option.some.inj ((List.getElem?_eq_getElem _).symm.trans (place i here))
  · rintro ⟨enough, rfl⟩
    refine List.forall₂_iff_get.mpr ⟨by simp [enough], fun i here _ => ?_⟩
    have here : i < n := by simpa using here
    simp [Nat.lt_of_lt_of_le here enough]

/-- Steps that go on from the second of two related entries, and tell something of the first, go on from
all entries of the second list. -/
theorem exists_forall₂_of_forall₂ {γ : Type} {R : α → β → Prop} {S : β → γ → Prop} {T : α → γ → Prop}
    {items : List α} {others : List β} (related : List.Forall₂ R items others)
    (step : ∀ a b, R a b → ∃ c, S b c ∧ T a c) :
    ∃ results, List.Forall₂ S others results ∧ List.Forall₂ T items results := by
  induction related with
  | nil => exact ⟨[], .nil, .nil⟩
  | cons first _ ih =>
    obtain ⟨c, onward, told⟩ := step _ _ first
    obtain ⟨results, all, all'⟩ := ih
    exact ⟨c :: results, .cons onward all, .cons told all'⟩

/-- What stands in the second of two related lists is related to something in the first. -/
theorem exists_mem_of_forall₂ {R : α → β → Prop} {items : List α} {others : List β}
    (related : List.Forall₂ R items others) {b : β} (mem : b ∈ others) : ∃ a ∈ items, R a b := by
  obtain ⟨k, there⟩ := List.mem_iff_getElem?.mp mem
  obtain ⟨a, there', step⟩ := exists_getElem?_of_forall₂ related there
  exact ⟨a, List.mem_of_getElem? there', step⟩

/-- A list is related to some list when each entry is related to something. -/
theorem exists_forall₂_iff {R : α → β → Prop} {items : List α} :
    (∃ others, List.Forall₂ R items others) ↔ ∀ item ∈ items, ∃ other, R item other := by
  constructor
  · intro h item mem
    obtain ⟨others, related⟩ := h
    obtain ⟨other, -, step⟩ := exists_mem_of_forall₂ related.flip mem
    exact ⟨other, step⟩
  · intro each
    induction items with
    | nil => exact ⟨[], .nil⟩
    | cons item items ih =>
      obtain ⟨⟨other, first⟩, rest⟩ := List.forall_mem_cons.mp each
      obtain ⟨others, related⟩ := ih rest
      exact ⟨other :: others, .cons first related⟩

/-- Two relations of all entries of two lists are one. -/
theorem forall₂_and {R S : α → β → Prop} {items : List α} {others : List β}
    (related : List.Forall₂ R items others) (related' : List.Forall₂ S items others) :
    List.Forall₂ (fun a b => R a b ∧ S a b) items others := by
  induction related with
  | nil => exact .nil
  | cons first _ ih =>
    cases related' with
    | cons first' rest' => exact .cons ⟨first, first'⟩ (ih rest')

/-- What holds of the entries of each of two related lists can be added to the relation. -/
theorem forall₂_and_mem {R : α → β → Prop} {Q : α → Prop} {Q' : β → Prop} {items : List α}
    {others : List β} (related : List.Forall₂ R items others) (all : ∀ a ∈ items, Q a)
    (all' : ∀ b ∈ others, Q' b) :
    List.Forall₂ (fun a b => Q a ∧ Q' b ∧ R a b) items others := by
  refine (List.forall₂_and_left items others).mpr ⟨all, ?_⟩
  exact ((List.forall₂_and_left others items).mpr ⟨all', related.flip⟩).flip

/-- Two lists that are related to equal entries of agreeing lists are equal. -/
theorem eq_of_forall₂_of_agree {α' : Type} {A : α → α' → Prop} {R : α → β → Prop} {R' : α' → β → Prop}
    {items : List α} {items' : List α'} {results results' : List β}
    (agree : List.Forall₂ A items items') (related : List.Forall₂ R items results)
    (related' : List.Forall₂ R' items' results')
    (step : ∀ a a' b b', A a a' → R a b → R' a' b' → b = b') : results = results' := by
  induction agree generalizing results results' with
  | nil =>
    cases related
    cases related'
    rfl
  | cons first _ ih =>
    cases related with
    | cons here rest =>
      cases related' with
      | cons here' rest' => rw [step _ _ _ _ first here here', ih rest rest']

theorem flatMap_withPositions (f : α → List β) :
    (withPositions items).flatMap (fun entry => f entry.2) = items.flatMap f := by
  conv_rhs => rw [← map_snd_withPositions items, List.flatMap_map]

theorem map_fst_withPositions : (withPositions items).map Prod.fst = List.range items.length :=
  List.map_fst_zip (by simp)

/-- Choosing entries by themselves and then taking the positions away is choosing entries. -/
theorem map_snd_filter_withPositions (p : α → Bool) :
    ((withPositions items).filter fun entry => p entry.2).map Prod.snd = items.filter p := by
  conv_rhs => rw [← map_snd_withPositions items, List.filter_map]
  rfl

theorem mapM_withPositions_eq_ok_iff {read : α → Outcome β} (context : Nat → String)
    {results : List β} :
    ((withPositions items).mapM fun (i, item) => (read item).inContext (context i)) = .ok results ↔
      List.Forall₂ (fun item result => read item = .ok result) items results := by
  rw [Outcome.mapM_eq_ok_iff]
  simp only [Outcome.inContext_eq_ok_iff]
  conv_rhs => rw [← map_snd_withPositions items, List.forall₂_map_left_iff]

/-- Lists that are put together are not longer than their number allows. -/
theorem length_flatMap_le {items : List α} {f : α → List β} {bound : Nat}
    (h : ∀ item ∈ items, (f item).length ≤ bound) :
    (items.flatMap f).length ≤ items.length * bound := by
  induction items with
  | nil => exact Nat.zero_le _
  | cons item items ih =>
    obtain ⟨first, rest⟩ := List.forall_mem_cons.mp h
    have := ih rest
    rw [List.flatMap_cons, List.length_append, List.length_cons, Nat.succ_mul]
    omega

end ConfidentialToken
