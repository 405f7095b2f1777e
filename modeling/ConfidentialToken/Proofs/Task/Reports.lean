import ConfidentialToken.Proofs.Task

/-!
# The records of tasks

A task that reports appends to the records that are there. Which records a task appends when it succeeds
is put together from its parts (`Task.Reports`). Where the records of two runs are compared part by part,
the parts must have the same lengths, or what one run reports early could stand for what the other
reports late; so the lengths are compared with the records (`EqualWhen`).
-/

namespace ConfidentialToken

/-! ## The records of a task -/

namespace Task

variable {α β : Type}

/-- When the task succeeds, it has added just these records to those before. -/
def Reports (task : Logged α) (added : List LogRecord) : Prop :=
  ∀ records a after, task.perform records = (.ok a, after) → after = records ++ added

namespace Reports

variable {task : Logged α} {next : α → Logged β} {added more : List LogRecord}

theorem congr (h : task.Reports added) (same : added = more) : task.Reports more := same ▸ h

theorem lift (result : Outcome α) : Reports (liftM result) [] := by
  intro records a after run
  obtain ⟨-, rfl⟩ := Task.perform_lift.mp run
  exact (List.append_nil records).symm

theorem pure (a : α) : Reports (Pure.pure a) [] := by
  intro records b after run
  obtain ⟨-, rfl⟩ := Task.perform_pure.mp run
  exact (List.append_nil records).symm

theorem debug (logger : Logger) (message : String) :
    (logger.debug message).Reports [⟨logger.target, message⟩] := by
  intro records _ after run
  exact (Task.perform_debug.mp run).symm

/-- A task that goes on adds its records after those of the beginning. -/
theorem bind (first : task.Reports added)
    (rest : ∀ records a, (task.perform records).1 = .ok a → (next a).Reports more) :
    (task >>= next).Reports (added ++ more) := by
  intro records b after run
  obtain ⟨a, between, begun, ended⟩ := Task.perform_bind.mp run
  have reported := rest records a (fst_perform_eq_ok_iff.mpr ⟨between, begun⟩) between b after ended
  rw [reported, first records a between begun, List.append_assoc]

theorem mapM {f : α → Logged β} {added : α → List LogRecord} (items : List α)
    (each : ∀ item, (f item).Reports (added item)) : (items.mapM f).Reports (items.flatMap added) := by
  induction items with
  | nil =>
    rw [List.mapM_nil]
    exact pure []
  | cons item items ih =>
    rw [List.mapM_cons, List.flatMap_cons]
    refine (each item).bind fun _ first _ => ?_
    exact (ih.bind fun _ others _ => pure _).congr (List.append_nil _)

/-- Two tasks that succeed leave the same records behind if they have added the same. -/
theorem perform_eq_iff {task' : Logged β} {a : α} {b : β} {added' records : List LogRecord}
    (reports : task.Reports added) (reports' : task'.Reports added')
    (success : (task.perform records).1 = .ok a) (success' : (task'.perform records).1 = .ok b) :
    (task.perform records).2 = (task'.perform records).2 ↔ added = added' := by
  have left : (task.perform records).2 = records ++ added := reports records a _ (Prod.ext success rfl)
  have left' : (task'.perform records).2 = records ++ added' :=
    reports' records b _ (Prod.ext success' rfl)
  rw [left, left', List.append_right_inj]

end Reports

end Task

/-! ## Lists that are equal under a condition -/

/-- Two lists have one length, and they are equal exactly where a condition holds. -/
structure EqualWhen {α : Type} (items others : List α) (condition : Prop) : Prop where
  length : items.length = others.length
  eq_iff : items = others ↔ condition

namespace EqualWhen

variable {α β γ : Type} {items others items' others' : List α} {condition condition' : Prop}

theorem nil : EqualWhen ([] : List α) [] True := ⟨rfl, iff_of_true rfl trivial⟩

theorem singleton {a b : α} (same : a = b ↔ condition) : EqualWhen [a] [b] condition :=
  ⟨rfl, by rw [List.singleton_inj, same]⟩

theorem congr (h : EqualWhen items others condition) (same : condition ↔ condition') :
    EqualWhen items others condition' :=
  ⟨h.length, h.eq_iff.trans same⟩

theorem append (first : EqualWhen items others condition)
    (second : EqualWhen items' others' condition') :
    EqualWhen (items ++ items') (others ++ others') (condition ∧ condition') where
  length := by rw [List.length_append, List.length_append, first.length, second.length]
  eq_iff := by
    rw [← first.eq_iff, ← second.eq_iff]
    constructor
    · exact fun h => List.append_inj h first.length
    · rintro ⟨rfl, rfl⟩
      rfl

/-- Lists that are put together from related entries are equal where the parts are. -/
theorem flatMap {R S : α → β → Prop} {f : α → List γ} {g : β → List γ} {items : List α}
    {others : List β} (related : List.Forall₂ R items others)
    (each : ∀ a b, R a b → EqualWhen (f a) (g b) (S a b)) :
    EqualWhen (items.flatMap f) (others.flatMap g) (List.Forall₂ S items others) := by
  induction related with
  | nil => exact nil.congr (iff_of_true trivial .nil)
  | cons first _ ih =>
    rw [List.flatMap_cons, List.flatMap_cons]
    exact ((each _ _ first).append ih).congr List.forall₂_cons.symm

end EqualWhen

end ConfidentialToken
