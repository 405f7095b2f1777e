import ConfidentialToken.SortedMap
import Mathlib.Data.List.Perm.Basic
import Mathlib.Data.List.Nodup

/-!
# Entries of sorted maps

What lookup, insertion and erasure do to the entries of a map: membership for every key, and for a
fresh insertion and the erasure of what is there a permutation, from which sums over all entries are
read off.
-/

namespace ConfidentialToken.SortedMap

variable {κ ν : Type} [Ord κ] [Std.LawfulEqOrd κ] {m : SortedMap κ ν}
  {key other : κ} {value : ν} {entry : κ × ν}

omit [Std.LawfulEqOrd κ] in
/-- A map is its entries. -/
theorem eq_of_entries {n : SortedMap κ ν} (same : m.entries = n.entries) : m = n := by
  cases m
  cases n
  cases same
  rfl

/-! ## Lookup -/

/-- Keys occur once. -/
theorem nodup_keys (m : SortedMap κ ν) : m.keys.Nodup := by
  refine List.pairwise_map.mpr (m.sorted.imp fun {x y} lt same => ?_)
  rw [same, Std.ReflOrd.compare_self] at lt
  cases lt

theorem get?_eq_some_iff : m.get? key = some value ↔ (key, value) ∈ m.entries := by
  constructor
  · intro h
    obtain ⟨found, hfound, rfl⟩ := Option.map_eq_some_iff.mp h
    have same := List.find?_some hfound
    obtain rfl := Std.LawfulEqOrd.eq_of_compare (of_decide_eq_true same)
    exact List.mem_of_find?_eq_some hfound
  · intro mem
    have isSome : (m.entries.find? fun entry => compare entry.1 key = .eq).isSome = true :=
      List.find?_isSome.mpr ⟨_, mem, decide_eq_true Std.ReflOrd.compare_self⟩
    obtain ⟨found, hfound⟩ := Option.isSome_iff_exists.mp isSome
    have same : found.1 = key :=
      Std.LawfulEqOrd.eq_of_compare (of_decide_eq_true
        (List.find?_some (p := fun entry : κ × ν => compare entry.1 key = .eq) hfound))
    have eq : found = (key, value) :=
      List.inj_on_of_nodup_map (nodup_keys m) (List.mem_of_find?_eq_some hfound) mem same
    rw [get?, hfound, eq]
    rfl

theorem get?_eq_none_iff : m.get? key = none ↔ key ∉ m.keys := by
  rw [Option.eq_none_iff_forall_ne_some]
  simp only [ne_eq, get?_eq_some_iff, keys, List.mem_map, Prod.exists, exists_and_right,
    exists_eq_right, not_exists]

/-- Two maps are the same when they have the same under every key. -/
theorem ext_get? [Std.TransOrd κ] {n : SortedMap κ ν} (same : ∀ key, m.get? key = n.get? key) :
    m = n := by
  have members : ∀ entry, entry ∈ m.entries ↔ entry ∈ n.entries := fun (key, value) => by
    rw [← get?_eq_some_iff, ← get?_eq_some_iff, same]
  have perm : m.entries.Perm n.entries :=
    (List.perm_ext_iff_of_nodup (nodup_keys m).of_map (nodup_keys n).of_map).mpr members
  -- both lists ascend, and entries ascend in one order only
  refine eq_of_entries (perm.eq_of_pairwise (fun x y _ _ lt lt' => ?_) m.sorted n.sorted)
  exact nomatch lt'.symm.trans (Std.OrientedCmp.gt_of_lt lt)

/-! ## Erasure -/

theorem mem_entries_erase : entry ∈ (m.erase key).entries ↔ entry ∈ m.entries ∧ entry.1 ≠ key := by
  unfold erase
  rw [List.mem_filter, decide_eq_true_iff, ne_eq, Std.LawfulEqOrd.compare_eq_iff_eq]

theorem get?_erase_self : (m.erase key).get? key = none := by
  refine Option.eq_none_iff_forall_ne_some.mpr fun value found => ?_
  exact (mem_entries_erase.mp (get?_eq_some_iff.mp found)).2 rfl

theorem get?_erase_of_ne (ne : other ≠ key) : (m.erase key).get? other = m.get? other := by
  refine Option.ext fun value => ?_
  rw [get?_eq_some_iff, get?_eq_some_iff, mem_entries_erase, and_iff_left ne]

/-- A map with an entry is that entry and what is left when it is erased. -/
theorem erase_perm (found : m.get? key = some value) :
    m.entries.Perm ((key, value) :: (m.erase key).entries) := by
  have nodup : m.entries.Nodup := (nodup_keys m).of_map
  have nodup' : (m.erase key).entries.Nodup := (nodup_keys (m.erase key)).of_map
  have absent : (key, value) ∉ (m.erase key).entries := fun mem => (mem_entries_erase.mp mem).2 rfl
  refine (List.perm_ext_iff_of_nodup nodup (List.nodup_cons.mpr ⟨absent, nodup'⟩)).mpr ?_
  intro entry
  rw [List.mem_cons, mem_entries_erase]
  constructor
  · intro mem
    by_cases same : entry.1 = key
    · exact .inl (List.inj_on_of_nodup_map (nodup_keys m) mem (get?_eq_some_iff.mp found) same)
    · exact .inr ⟨mem, same⟩
  · rintro (rfl | ⟨mem, -⟩)
    · exact get?_eq_some_iff.mp found
    · exact mem

/-- The entries of a list are what its keys take out of a map that holds them. -/
theorem foldl_erase_perm {removed : List (κ × ν)} (nodup : (removed.map Prod.fst).Nodup)
    (found : ∀ entry ∈ removed, m.get? entry.1 = some entry.2) :
    m.entries.Perm (removed ++ ((removed.map Prod.fst).foldl erase m).entries) := by
  induction removed generalizing m with
  | nil => exact List.Perm.refl _
  | cons entry rest ih =>
    obtain ⟨hentry, hrest⟩ := List.forall_mem_cons.mp found
    obtain ⟨apart, nodup⟩ := List.nodup_cons.mp nodup
    have found' : ∀ e ∈ rest, (m.erase entry.1).get? e.1 = some e.2 := fun e mem => by
      have ne : e.1 ≠ entry.1 := fun same => apart (same ▸ List.mem_map_of_mem mem)
      rw [get?_erase_of_ne ne, hrest e mem]
    exact (erase_perm hentry).trans ((ih nodup found').cons entry)

/-- What is not erased stays. -/
theorem get?_foldl_erase {keys : List κ} (notMem : key ∉ keys) :
    (keys.foldl erase m).get? key = m.get? key := by
  induction keys generalizing m with
  | nil => rfl
  | cons first rest ih =>
    obtain ⟨ne, notMem⟩ := List.ne_and_not_mem_of_not_mem_cons notMem
    exact (ih notMem).trans (get?_erase_of_ne ne)

/-- What is erased is gone. -/
theorem get?_foldl_erase_of_mem {keys : List κ} (mem : key ∈ keys) :
    (keys.foldl erase m).get? key = none := by
  induction keys generalizing m with
  | nil => cases mem
  | cons first rest ih =>
    by_cases again : key ∈ rest
    · exact ih again
    · obtain rfl : key = first := (List.mem_cons.mp mem).resolve_right again
      exact (get?_foldl_erase again).trans get?_erase_self

/-- Erasures put nothing in. -/
theorem get?_of_foldl_erase {keys : List κ} (found : (keys.foldl erase m).get? key = some value) :
    m.get? key = some value := by
  induction keys generalizing m with
  | nil => exact found
  | cons first rest ih =>
    have before := mem_entries_erase.mp (get?_eq_some_iff.mp (ih found))
    exact get?_eq_some_iff.mpr before.1

/-! ## Insertion -/

variable [Std.TransOrd κ]

/-- Inserting a fresh key adds its entry. -/
theorem insert_perm (fresh : m.get? key = none) :
    (m.insert key value).entries.Perm ((key, value) :: m.entries) := by
  have absent : ∀ entry ∈ m.entries, entry.1 ≠ key := fun entry mem same =>
    get?_eq_none_iff.mp fresh (same ▸ List.mem_map_of_mem mem)
  show (insertEntry key value m.entries).Perm _
  generalize m.entries = entries at absent
  induction entries with
  | nil => exact List.Perm.refl _
  | cons entry rest ih =>
    obtain ⟨hentry, hrest⟩ := List.forall_mem_cons.mp absent
    unfold insertEntry
    split
    · exact List.Perm.refl _
    · next same => exact absurd (Std.LawfulEqOrd.eq_of_compare same).symm hentry
    · exact ((ih hrest).cons entry).trans (List.Perm.swap _ _ _)

theorem get?_insert_self : (m.insert key value).get? key = some value := by
  refine get?_eq_some_iff.mpr ?_
  show _ ∈ insertEntry key value m.entries
  induction m.entries with
  | nil => exact List.mem_singleton_self _
  | cons entry rest ih =>
    unfold insertEntry
    split
    · exact List.mem_cons_self
    · exact List.mem_cons_self
    · exact List.mem_cons_of_mem _ ih

theorem get?_insert_of_ne (ne : other ≠ key) : (m.insert key value).get? other = m.get? other := by
  refine Option.ext fun found => ?_
  rw [get?_eq_some_iff, get?_eq_some_iff]
  show _ ∈ insertEntry key value m.entries ↔ _
  induction m.entries with
  | nil => simp [insertEntry, ne]
  | cons entry rest ih =>
    unfold insertEntry
    split
    · simp [ne]
    · next same =>
      obtain rfl := Std.LawfulEqOrd.eq_of_compare same
      have apart : (other, found) ≠ entry := fun h => ne (congrArg Prod.fst h)
      simp [ne, apart]
    · rw [List.mem_cons, List.mem_cons, ih]

omit [Std.LawfulEqOrd κ] in
/-- A key above all others comes last. -/
theorem insertEntry_of_lt {entries : List (κ × ν)}
    (above : ∀ entry ∈ entries, compare entry.1 key = .lt) :
    insertEntry key value entries = entries ++ [(key, value)] := by
  induction entries with
  | nil => rfl
  | cons entry rest ih =>
    obtain ⟨hentry, hrest⟩ := List.forall_mem_cons.mp above
    have gt : compare key entry.1 = .gt := Std.OrientedCmp.gt_of_lt hentry
    simp only [insertEntry, gt, ih hrest, List.cons_append]

/-- The entries of a map make the map again. -/
theorem ofList_entries (m : SortedMap κ ν) : ofList m.entries = m := by
  -- the entries come in increasing order, so each is put behind those already there
  have onto : ∀ (rest : List (κ × ν)) (start : SortedMap κ ν),
      ((start.entries ++ rest).Pairwise fun x y => compare x.1 y.1 = .lt) →
      (rest.foldl (fun m entry => m.insert entry.1 entry.2) start).entries =
        start.entries ++ rest := by
    intro rest
    induction rest with
    | nil => exact fun start _ => (List.append_nil _).symm
    | cons entry rest ih =>
      intro start sorted
      have above : ∀ e ∈ start.entries, compare e.1 entry.1 = .lt := fun e mem =>
        (List.pairwise_append.mp sorted).2.2 e mem entry List.mem_cons_self
      have inserted : (start.insert entry.1 entry.2).entries = start.entries ++ [entry] :=
        insertEntry_of_lt above
      have again := ih (start.insert entry.1 entry.2)
      rw [inserted, List.append_assoc, List.singleton_append] at again
      exact again sorted
  exact eq_of_entries (onto m.entries empty m.sorted)

/-- Insertions take nothing out. -/
theorem get?_foldl_insert_ne_none {added : List (κ × ν)} (found : m.get? key ≠ none) :
    (added.foldl (fun m (key, value) => m.insert key value) m).get? key ≠ none := by
  induction added generalizing m with
  | nil => exact found
  | cons entry rest ih =>
    refine ih ?_
    by_cases same : key = entry.1
    · rw [same, get?_insert_self]
      exact nofun
    · rw [get?_insert_of_ne same]
      exact found

/-- What is inserted is there. -/
theorem get?_foldl_insert_of_mem {added : List (κ × ν)} (mem : key ∈ added.map Prod.fst) :
    (added.foldl (fun m (key, value) => m.insert key value) m).get? key ≠ none := by
  induction added generalizing m with
  | nil => cases mem
  | cons entry rest ih =>
    rw [List.foldl_cons]
    rcases List.mem_cons.mp mem with rfl | mem
    · have there : (m.insert entry.1 entry.2).get? entry.1 ≠ none := by
        rw [get?_insert_self]
        exact nofun
      exact get?_foldl_insert_ne_none there
    · exact ih mem

/-- What is not inserted stays. -/
theorem get?_foldl_insert {added : List (κ × ν)} (notMem : key ∉ added.map Prod.fst) :
    (added.foldl (fun m (key, value) => m.insert key value) m).get? key = m.get? key := by
  induction added generalizing m with
  | nil => rfl
  | cons entry rest ih =>
    obtain ⟨ne, notMem⟩ := List.ne_and_not_mem_of_not_mem_cons notMem
    exact (ih notMem).trans (get?_insert_of_ne ne)

/-- What is inserted is there whatever was there before. -/
theorem get?_foldl_insert_congr {n : SortedMap κ ν} {added : List (κ × ν)}
    (mem : key ∈ added.map Prod.fst) :
    (added.foldl (fun m (key, value) => m.insert key value) m).get? key =
      (added.foldl (fun m (key, value) => m.insert key value) n).get? key := by
  induction added generalizing m n with
  | nil => cases mem
  | cons entry rest ih =>
    by_cases again : key ∈ rest.map Prod.fst
    · exact ih again
    · obtain rfl : key = entry.1 := (List.mem_cons.mp mem).resolve_right again
      rw [List.foldl_cons, List.foldl_cons, get?_foldl_insert again, get?_foldl_insert again,
        get?_insert_self, get?_insert_self]

/-- What is there after insertions was there before or was inserted. -/
theorem get?_or_mem_of_foldl_insert {added : List (κ × ν)}
    (found : (added.foldl (fun m (key, value) => m.insert key value) m).get? key = some value) :
    m.get? key = some value ∨ (key, value) ∈ added := by
  induction added generalizing m with
  | nil => exact .inl found
  | cons entry rest ih =>
    rcases ih found with before | mem
    · by_cases same : key = entry.1
      · subst same
        rw [get?_insert_self] at before
        cases before
        exact .inr List.mem_cons_self
      · rw [get?_insert_of_ne same] at before
        exact .inl before
    · exact .inr (List.mem_cons_of_mem _ mem)

/-- What is inserted once is there with its value, whatever was there before. -/
theorem get?_foldl_insert_of_nodup {added : List (κ × ν)} (nodup : (added.map Prod.fst).Nodup)
    (mem : (key, value) ∈ added) :
    (added.foldl (fun m (key, value) => m.insert key value) m).get? key = some value := by
  induction added generalizing m with
  | nil => cases mem
  | cons entry rest ih =>
    obtain ⟨apart, nodup⟩ := List.nodup_cons.mp nodup
    rcases List.mem_cons.mp mem with rfl | mem
    · exact (get?_foldl_insert apart).trans get?_insert_self
    · exact ih nodup mem

/-- Inserting fresh keys, each once, adds the entries. -/
theorem foldl_insert_perm {added : List (κ × ν)} (nodup : (added.map Prod.fst).Nodup)
    (fresh : ∀ entry ∈ added, m.get? entry.1 = none) :
    (added.foldl (fun m (key, value) => m.insert key value) m).entries.Perm
      (added ++ m.entries) := by
  induction added generalizing m with
  | nil => exact List.Perm.refl _
  | cons entry rest ih =>
    obtain ⟨hentry, hrest⟩ := List.forall_mem_cons.mp fresh
    obtain ⟨apart, nodup⟩ := List.nodup_cons.mp nodup
    have fresh' : ∀ e ∈ rest, (m.insert entry.1 entry.2).get? e.1 = none := fun e mem => by
      have ne : e.1 ≠ entry.1 := fun same => apart (same ▸ List.mem_map_of_mem mem)
      rw [get?_insert_of_ne ne, hrest e mem]
    refine (ih nodup fresh').trans (((insert_perm hentry).append_left rest).trans ?_)
    exact List.perm_middle

end ConfidentialToken.SortedMap
