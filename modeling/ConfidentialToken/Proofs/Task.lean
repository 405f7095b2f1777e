import ConfidentialToken.Log
import Mathlib.Data.List.Forall2

/-!
# Successful tasks

A task succeeds when it performs to a result; each way of making a task says here, as an equivalence,
when it does. Proofs about tasks peel a computation apart with these laws and never unfold the monad.
What a task leaves behind when it fails is not described. Of a task that does not look at the state,
such as one that only reports, it is enough to know what it yields (`Task.Yields`).
-/

namespace ConfidentialToken

namespace Outcome

variable {α β : Type}

/-- A context changes no result, and no error into a result. -/
@[simp] theorem inContext_eq_ok_iff {context : String} {result : Outcome α} {value : α} :
    result.inContext context = .ok value ↔ result = .ok value := by
  cases result with
  | ok a => exact Iff.rfl
  | error e => exact ⟨nofun, nofun⟩

@[simp] theorem asVerification_eq_ok_iff {result : Outcome α} {value : α} :
    result.asVerification = .ok value ↔ result = .ok value := by
  cases result with
  | ok a => exact Iff.rfl
  | error e => exact ⟨nofun, nofun⟩

theorem mapError_eq_ok_iff {ε : Type} {f : ε → Error} {result : Except ε α} {value : α} :
    result.mapError f = .ok value ↔ result = .ok value := by
  cases result with
  | ok a => exact ⟨fun h => congrArg _ (Except.ok.inj h), fun h => congrArg _ (Except.ok.inj h)⟩
  | error e => exact ⟨nofun, nofun⟩

theorem bind_eq_ok_iff {result : Outcome α} {next : α → Outcome β} {value : β} :
    (result >>= next) = .ok value ↔ ∃ a, result = .ok a ∧ next a = .ok value := by
  cases result with
  | ok a => exact ⟨fun h => ⟨a, rfl, h⟩, fun ⟨_, ha, h⟩ => Except.ok.inj ha ▸ h⟩
  | error e => exact ⟨nofun, nofun⟩

/-- A computation goes on with a result that is there. -/
theorem bind_of_eq_ok {result : Outcome α} {next : α → Outcome β} {a : α} (there : result = .ok a) :
    (result >>= next) = next a :=
  there ▸ rfl

@[simp] theorem require_eq_ok_iff {condition : Bool} {e : Error} {u : Unit} :
    require condition e = .ok u ↔ condition = true := by
  unfold require
  split
  · next h => exact ⟨fun _ => h, fun _ => rfl⟩
  · next h => exact ⟨nofun, fun h' => absurd h' h⟩

/-- A guard that fails under a condition succeeds where the condition does not hold. -/
theorem guard_eq_ok_iff {condition : Prop} [Decidable condition] {e : Error} {next : Outcome α}
    {value : α} :
    (if condition then throw e else next) = .ok value ↔ ¬condition ∧ next = .ok value := by
  by_cases h : condition
  · rw [if_pos h]
    exact ⟨nofun, fun ⟨h', _⟩ => absurd h h'⟩
  · rw [if_neg h, and_iff_right h]

/-- The same of a guard that something follows, as the `do` notation writes it. -/
theorem guard_bind_eq_ok_iff {condition : Prop} [Decidable condition] {e : Error}
    {after : β → Outcome α} {next : Outcome α} {value : α} :
    (if condition then throw e >>= after else next) = .ok value ↔
      ¬condition ∧ next = .ok value :=
  guard_eq_ok_iff

/-- A check that stands before others succeeds with them. -/
theorem check_bind_eq_ok_iff {check : Outcome Unit} {next : Unit → Outcome α} {value : α} :
    (check >>= next) = .ok value ↔ check = .ok () ∧ next () = .ok value := by
  rw [bind_eq_ok_iff]
  exact ⟨fun ⟨_, hcheck, h⟩ => ⟨hcheck, h⟩, fun ⟨hcheck, h⟩ => ⟨(), hcheck, h⟩⟩

/-- Checking all entries of a list succeeds when each check does. -/
theorem forM_eq_ok_iff {items : List α} {check : α → Outcome Unit} :
    items.forM check = .ok () ↔ ∀ item ∈ items, check item = .ok () := by
  induction items with
  | nil => exact ⟨fun _ _ h => absurd h List.not_mem_nil, fun _ => rfl⟩
  | cons item items ih =>
    show (check item >>= fun _ => items.forM check) = .ok () ↔ _
    rw [check_bind_eq_ok_iff, List.forall_mem_cons, ← ih]

/-- Mapping over a list gives the results of its entries, if each has one. -/
theorem mapM_eq_ok_iff {items : List α} {f : α → Outcome β} {results : List β} :
    items.mapM f = .ok results ↔
      List.Forall₂ (fun item result => f item = .ok result) items results := by
  induction items generalizing results with
  | nil =>
    rw [List.mapM_nil, List.forall₂_nil_left_iff]
    exact ⟨fun h => (Except.ok.inj h).symm, fun h => h ▸ rfl⟩
  | cons item items ih =>
    rw [List.mapM_cons, bind_eq_ok_iff, List.forall₂_cons_left_iff]
    refine exists_congr fun result => ?_
    rw [bind_eq_ok_iff]
    simp only [← ih]
    constructor
    · rintro ⟨first, rest, others, h⟩
      cases h
      exact ⟨_, first, others, rfl⟩
    · rintro ⟨rest, first, others, rfl⟩
      exact ⟨first, rest, others, rfl⟩

/-- Some results of a list all have a property when each entry has such a result. -/
theorem exists_mapM_eq_ok_iff {items : List α} {f : α → Outcome β}
    {Q : β → Prop} :
    (∃ results, items.mapM f = .ok results ∧ ∀ result ∈ results, Q result) ↔
      ∀ item ∈ items, ∃ result, f item = .ok result ∧ Q result := by
  simp only [mapM_eq_ok_iff]
  induction items with
  | nil => exact ⟨fun _ => nofun, fun _ => ⟨[], .nil, nofun⟩⟩
  | cons item items ih =>
    rw [List.forall_mem_cons, ← ih]
    constructor
    · rintro ⟨_, _ | ⟨first, rest⟩, holds⟩
      obtain ⟨holds, all⟩ := List.forall_mem_cons.mp holds
      exact ⟨⟨_, first, holds⟩, _, rest, all⟩
    · rintro ⟨⟨result, first, holds⟩, results, rest, all⟩
      exact ⟨result :: results, .cons first rest, List.forall_mem_cons.mpr ⟨holds, all⟩⟩

end Outcome

namespace Task

variable {σ τ α β : Type} {s s' : σ}

/-- A task gives a result when it performs to it, whatever it leaves behind. -/
theorem fst_perform_eq_ok_iff {task : Task σ α} {a : α} :
    (task.perform s).1 = .ok a ↔ ∃ after, task.perform s = (.ok a, after) :=
  ⟨fun h => ⟨_, Prod.ext h rfl⟩, fun ⟨_, h⟩ => congrArg Prod.fst h⟩

theorem perform_bind {task : Task σ α} {next : α → Task σ β} {b : β} :
    (task >>= next).perform s = (.ok b, s') ↔
      ∃ a between, task.perform s = (.ok a, between) ∧ (next a).perform between = (.ok b, s') := by
  have unfolded : (task >>= next).perform s =
      ExceptT.bindCont (m := StateM σ) next (task.perform s).1 (task.perform s).2 := rfl
  rw [unfolded]
  cases task.perform s with
  | mk result between =>
    cases result with
    | ok a =>
      refine ⟨fun h => ⟨a, between, rfl, h⟩, ?_⟩
      rintro ⟨_, _, performed, h⟩
      cases performed
      exact h
    | error e => exact ⟨nofun, nofun⟩

/-- A task that goes on from a success succeeds when what follows does. -/
theorem exists_perform_bind {task : Task σ α} {next : α → Task σ β} {a : α} {b : β} {between : σ}
    (first : task.perform s = (.ok a, between))
    (rest : ∃ after, (next a).perform between = (.ok b, after)) :
    ∃ after, (task >>= next).perform s = (.ok b, after) :=
  rest.imp fun _ h => perform_bind.mpr ⟨a, between, first, h⟩

@[simp] theorem perform_pure {a b : α} :
    (pure a : Task σ α).perform s = (.ok b, s') ↔ a = b ∧ s = s' := by
  show ((.ok a : Outcome α), s) = _ ↔ _
  simp

@[simp] theorem perform_throw {e : Error} {a : α} :
    (throw e : Task σ α).perform s = (.ok a, s') ↔ False := by
  show ((.error e : Outcome α), s) = _ ↔ _
  simp

@[simp] theorem perform_lift {result : Outcome α} {a : α} :
    (liftM result : Task σ α).perform s = (.ok a, s') ↔ result = .ok a ∧ s = s' := by
  show (result, s) = _ ↔ _
  simp

/-- A task that looks at the state goes on with it. -/
@[simp] theorem perform_get_bind {next : σ → Task σ α} :
    ((get : Task σ σ) >>= next).perform s = (next s).perform s := rfl

/-- A task that sets the state goes on from it. -/
@[simp] theorem perform_set_bind {t : σ} {next : PUnit → Task σ α} :
    ((set t : Task σ PUnit) >>= next).perform s = (next ⟨⟩).perform t := rfl

/-- A task goes on with a result that is there. -/
@[simp] theorem lift_ok_bind {a : α} {next : α → Task σ β} :
    (liftM (.ok a : Outcome α) : Task σ α) >>= next = next a := rfl

@[simp] theorem perform_inContext {context : String} {task : Task σ α} {a : α} :
    (task.inContext context).perform s = (.ok a, s') ↔ task.perform s = (.ok a, s') := by
  show (Outcome.inContext context (task.perform s).1, (task.perform s).2) = _ ↔ _
  cases task.perform s with
  | mk result after => simp

/-- A task on a part of the state succeeds when the task does on the part. -/
theorem perform_onPart {part : σ → τ} {replace : τ → σ → σ} {task : Task τ α} {a : α} :
    (task.onPart part replace).perform s = (.ok a, s') ↔
      ∃ changed, task.perform (part s) = (.ok a, changed) ∧ replace changed s = s' := by
  show ((task.perform (part s)).1, replace (task.perform (part s)).2 s) = _ ↔ _
  cases task.perform (part s) with
  | mk result changed =>
    rw [Prod.mk.injEq]
    constructor
    · rintro ⟨rfl, h⟩
      exact ⟨changed, rfl, h⟩
    · rintro ⟨_, performed, h⟩
      cases performed
      exact ⟨rfl, h⟩

@[simp] theorem perform_debug {logger : Logger} {message : String} {records after : List LogRecord}
    {u : Unit} :
    (logger.debug message).perform records = (.ok u, after) ↔
      records ++ [⟨logger.target, message⟩] = after := by
  show ((.ok () : Outcome Unit), records ++ [⟨logger.target, message⟩]) = _ ↔ _
  simp

/-! ## Tasks that do not look at the state -/

/-- From every state a task succeeds with the results of which `R` speaks, and with no others. -/
def Yields (task : Task σ α) (R : α → Prop) : Prop := ∀ s a, (task.perform s).1 = .ok a ↔ R a

namespace Yields

variable {task : Task σ α} {next : α → Task σ β} {R R' : α → Prop} {Q : α → β → Prop}

theorem congr (h : task.Yields R) (same : ∀ a, R a ↔ R' a) : task.Yields R' :=
  fun s a => (h s a).trans (same a)

theorem lift (result : Outcome α) : Yields (liftM result : Task σ α) (result = .ok ·) :=
  fun _ _ => Iff.rfl

theorem pure (a : α) : Yields (Pure.pure a : Task σ α) (a = ·) :=
  fun _ _ => ⟨Except.ok.inj, congrArg Except.ok⟩

theorem debug (logger : Logger) (message : String) : Yields (logger.debug message) fun _ => True :=
  fun _ _ => ⟨fun _ => trivial, fun _ => rfl⟩

/-- What a task that goes on yields is what the rest yields after a result of the beginning. -/
theorem bind (first : task.Yields R) (rest : ∀ a, R a → (next a).Yields (Q a)) :
    (task >>= next).Yields fun b => ∃ a, R a ∧ Q a b := by
  intro s b
  rw [fst_perform_eq_ok_iff]
  simp only [perform_bind]
  constructor
  · rintro ⟨after, a, between, begun, ended⟩
    have yielded := (first s a).mp (fst_perform_eq_ok_iff.mpr ⟨between, begun⟩)
    exact ⟨a, yielded, (rest a yielded between b).mp (fst_perform_eq_ok_iff.mpr ⟨after, ended⟩)⟩
  · rintro ⟨a, yielded, yielded'⟩
    obtain ⟨between, begun⟩ := fst_perform_eq_ok_iff.mp ((first s a).mpr yielded)
    obtain ⟨after, ended⟩ := fst_perform_eq_ok_iff.mp ((rest a yielded between b).mpr yielded')
    exact ⟨after, a, between, begun, ended⟩

/-- Mapping over a list yields the lists of what the entries yield. -/
theorem mapM {items : List α} {f : α → Task σ β} (each : ∀ item, (f item).Yields (Q item)) :
    (items.mapM f).Yields (List.Forall₂ Q items) := by
  induction items with
  | nil =>
    rw [List.mapM_nil]
    exact (pure []).congr fun _ => eq_comm.trans List.forall₂_nil_left_iff.symm
  | cons item items ih =>
    rw [List.mapM_cons]
    refine ((each item).bind fun first _ => ih.bind fun others _ => pure (first :: others)).congr ?_
    intro results
    rw [List.forall₂_cons_left_iff]
    constructor
    · rintro ⟨first, yielded, others, all, rfl⟩
      exact ⟨first, others, yielded, all, rfl⟩
    · rintro ⟨first, others, yielded, all, rfl⟩
      exact ⟨first, yielded, others, all, rfl⟩

end Yields

end Task

end ConfidentialToken
