import ConfidentialToken.Proofs.Task

/-!
# Failing tasks

Of an error a caller can act on the kind, and on nothing else that it holds. Two things are said here of
tasks that fail: which kinds of errors they fail with (`FailsOnly`), and that two of them fail with
errors of one kind or give one result (`Alike`). Both are kept by every way of making a task, so that
what is shown of the parts of a check is shown of the whole.

A third is said of the state. A task keeps what it did before it failed, so one that changes nothing when
it fails (`Task.Atomic`) has all its checks before its first change.
-/

namespace ConfidentialToken

namespace Outcome

variable {α β : Type} {Q Q' : ErrorKind → Prop}

/-! ## The kinds of errors -/

/-- A result is no error, or one of a kind of which `Q` speaks. -/
def FailsOnly (Q : ErrorKind → Prop) (result : Outcome α) : Prop :=
  ∀ e, result = .error e → Q e.kind

namespace FailsOnly

variable {result : Outcome α} {next : α → Outcome β} {items : List α}

theorem ok (a : α) : FailsOnly Q (.ok a) := nofun

theorem error {e : Error} (kind : Q e.kind) : FailsOnly Q (.error e : Outcome α) :=
  fun _ h => Except.error.inj h ▸ kind

theorem mono (h : result.FailsOnly Q) (wider : ∀ kind, Q kind → Q' kind) : result.FailsOnly Q' :=
  fun e failed => wider _ (h e failed)

/-- A result that renames its faults fails with the kinds of the new names. -/
theorem mapError {ε : Type} {f : ε → Error} (kinds : ∀ fault, Q (f fault).kind)
    (result : Except ε α) : FailsOnly Q (result.mapError f) := by
  cases result with
  | ok a => exact ok a
  | error fault => exact error (kinds fault)

/-- A context is put around an error of any kind and leaves the kind as it is. -/
theorem inContext (h : result.FailsOnly Q) (context : String) :
    (result.inContext context).FailsOnly Q := by
  cases result with
  | ok a => exact ok a
  | error e => exact error (h e rfl)

/-- Whatever an error was, it is a failed verification once it is reported as one. -/
theorem asVerification (kind : Q .verification) (result : Outcome α) :
    result.asVerification.FailsOnly Q :=
  mapError (fun _ => kind) result

theorem bind (first : result.FailsOnly Q) (rest : ∀ a, result = .ok a → (next a).FailsOnly Q) :
    (result >>= next).FailsOnly Q := by
  cases result with
  | ok a => exact rest a rfl
  | error e => exact error (first e rfl)

theorem ite {condition : Prop} [Decidable condition] {other : Outcome α}
    (first : condition → result.FailsOnly Q) (second : ¬condition → other.FailsOnly Q) :
    (if condition then result else other).FailsOnly Q := by
  split
  · next h => exact first h
  · next h => exact second h

/-- A guard fails with its own error or lets the rest fail. -/
theorem guard {condition : Prop} [Decidable condition] {e : Error} (kind : Q e.kind)
    (rest : result.FailsOnly Q) : (if condition then throw e else result).FailsOnly Q :=
  ite (fun _ => error kind) fun _ => rest

/-- The same of a guard that something follows, as the `do` notation writes it. -/
theorem guard_bind {condition : Prop} [Decidable condition] {e : Error} {after : β → Outcome α}
    (kind : Q e.kind) (rest : result.FailsOnly Q) :
    (if condition then throw e >>= after else result).FailsOnly Q :=
  guard kind rest

theorem require {condition : Bool} {e : Error} (kind : Q e.kind) :
    (Outcome.require condition e).FailsOnly Q :=
  ite (fun _ => ok ()) fun _ => error kind

theorem forM {check : α → Outcome Unit} (each : ∀ item ∈ items, (check item).FailsOnly Q) :
    (items.forM check).FailsOnly Q := by
  induction items with
  | nil => exact ok ()
  | cons item items ih =>
    obtain ⟨first, rest⟩ := List.forall_mem_cons.mp each
    exact first.bind fun _ _ => ih rest

theorem mapM {f : α → Outcome β} (each : ∀ item ∈ items, (f item).FailsOnly Q) :
    (items.mapM f).FailsOnly Q := by
  induction items with
  | nil => exact ok []
  | cons item items ih =>
    obtain ⟨first, rest⟩ := List.forall_mem_cons.mp each
    rw [List.mapM_cons]
    exact first.bind fun _ _ => (ih rest).bind fun _ _ => ok _

end FailsOnly

/-! ## Results that are alike -/

/-- Two runs give the same result or fail with errors of one kind. -/
inductive Alike : Outcome α → Outcome α → Prop
  | ok (a : α) : Alike (.ok a) (.ok a)
  | error {e e' : Error} (same : e.kind = e'.kind) : Alike (.error e) (.error e')

namespace Alike

variable {result result' : Outcome α}

theorem refl : (result : Outcome α) → Alike result result
  | .ok a => .ok a
  | .error _ => .error rfl

theorem eq_ok {a : α} (h : Alike (.ok a) result) : result = .ok a := by
  cases h
  rfl

/-- Checks that fail with errors of one kind only are alike if one succeeds where the other does. -/
theorem of_failsOnly {kind : ErrorKind} {check check' : Outcome Unit} (h : check.FailsOnly (· = kind))
    (h' : check'.FailsOnly (· = kind)) (same : check = .ok () ↔ check' = .ok ()) :
    Alike check check' := by
  cases check with
  | ok _ =>
    rw [same.mp rfl]
    exact .ok ()
  | error e =>
    cases check' with
    | ok _ => cases same.mpr rfl
    | error e' => exact .error ((h e rfl).trans (h' e' rfl).symm)

theorem inContext (h : Alike result result') (context : String) :
    Alike (result.inContext context) (result'.inContext context) := by
  cases h with
  | ok a => exact .ok a
  | error same => exact .error same

theorem bind {next next' : α → Outcome β} (first : Alike result result')
    (rest : ∀ a, result = .ok a → Alike (next a) (next' a)) :
    Alike (result >>= next) (result' >>= next') := by
  cases first with
  | ok a => exact rest a rfl
  | error same => exact .error same

end Alike

end Outcome

namespace Task

variable {σ τ α β : Type}

theorem perform_bind_eq (task : Task σ α) (next : α → Task σ β) (s : σ) :
    (task >>= next).perform s =
      ExceptT.bindCont (m := StateM σ) next (task.perform s).1 (task.perform s).2 := rfl

/-- A task goes on where it has a result. -/
theorem perform_bind_of_ok {task : Task σ α} {next : α → Task σ β} {s between : σ} {a : α}
    (first : task.perform s = (.ok a, between)) :
    (task >>= next).perform s = (next a).perform between := by
  rw [perform_bind_eq, first]
  rfl

/-- A task that has failed does not go on. -/
theorem perform_bind_of_error {task : Task σ α} {next : α → Task σ β} {s after : σ} {e : Error}
    (first : task.perform s = (.error e, after)) :
    (task >>= next).perform s = (.error e, after) := by
  rw [perform_bind_eq, first]
  rfl

/-! ## The kinds of errors -/

/-- From every state a task fails, if it does, with an error of a kind of which `Q` speaks. -/
def FailsOnly (Q : ErrorKind → Prop) (task : Task σ α) : Prop := ∀ s, (task.perform s).1.FailsOnly Q

namespace FailsOnly

variable {Q : ErrorKind → Prop} {task : Task σ α} {next : α → Task σ β} {items : List α}

theorem pure (a : α) : FailsOnly Q (Pure.pure a : Task σ α) := fun _ => .ok a

theorem throw {e : Error} (kind : Q e.kind) : FailsOnly Q (MonadExcept.throw e : Task σ α) :=
  fun _ => .error kind

theorem lift {result : Outcome α} (h : result.FailsOnly Q) : FailsOnly Q (liftM result : Task σ α) :=
  fun _ => h

theorem get : FailsOnly Q (MonadState.get : Task σ σ) := fun s => .ok s

theorem set (s : σ) : FailsOnly Q (MonadStateOf.set s : Task σ PUnit) := fun _ => .ok PUnit.unit

theorem debug (logger : Logger) (message : String) : (logger.debug message).FailsOnly Q :=
  fun _ => .ok ()

theorem bind (first : task.FailsOnly Q) (rest : ∀ a, (next a).FailsOnly Q) :
    (task >>= next).FailsOnly Q := by
  intro s
  cases run : task.perform s with
  | mk result between =>
    cases result with
    | ok a =>
      rw [perform_bind_of_ok run]
      exact rest a between
    | error e =>
      rw [perform_bind_of_error run]
      exact .error (first s e (congrArg Prod.fst run))

theorem inContext (h : task.FailsOnly Q) (context : String) : (task.inContext context).FailsOnly Q :=
  fun s => (h s).inContext context

theorem onPart {part : σ → τ} {replace : τ → σ → σ} {task : Task τ α} (h : task.FailsOnly Q) :
    (task.onPart part replace).FailsOnly Q :=
  fun s => h (part s)

theorem ite {condition : Prop} [Decidable condition] {other : Task σ α}
    (first : task.FailsOnly Q) (second : other.FailsOnly Q) :
    (if condition then task else other).FailsOnly Q := by
  split
  · exact first
  · exact second

theorem guard {condition : Prop} [Decidable condition] {e : Error} (kind : Q e.kind)
    (rest : task.FailsOnly Q) :
    (if condition then MonadExcept.throw e else task).FailsOnly Q :=
  ite (throw kind) rest

theorem guard_bind {condition : Prop} [Decidable condition] {e : Error} {after : β → Task σ α}
    (kind : Q e.kind) (rest : task.FailsOnly Q) :
    (if condition then MonadExcept.throw e >>= after else task).FailsOnly Q :=
  guard kind rest

theorem forM {check : α → Task σ Unit} (each : ∀ item ∈ items, (check item).FailsOnly Q) :
    (items.forM check).FailsOnly Q := by
  induction items with
  | nil => exact pure ()
  | cons item items ih =>
    obtain ⟨first, rest⟩ := List.forall_mem_cons.mp each
    exact first.bind fun _ => ih rest

end FailsOnly

/-! ## The state after a failure -/

/-- A task that fails leaves the state as it found it. -/
def Atomic (task : Task σ α) : Prop := ∀ s e after, task.perform s = (.error e, after) → after = s

namespace Atomic

variable {task : Task σ α} {next : α → Task σ β}

theorem throw (e : Error) : Atomic (MonadExcept.throw e : Task σ α) :=
  fun _ _ _ failed => (Prod.mk.inj failed).2.symm

theorem lift (result : Outcome α) : Atomic (liftM result : Task σ α) :=
  fun _ _ _ failed => (Prod.mk.inj failed).2.symm

/-- A task that never fails may change what it likes. -/
theorem of_succeeds (succeeds : ∀ s, ∃ a after, task.perform s = (.ok a, after)) : task.Atomic := by
  intro s e after failed
  obtain ⟨a, after', run⟩ := succeeds s
  cases run.symm.trans failed

/-- To look at the state first changes nothing. -/
theorem get_bind {next : σ → Task σ α} (rest : ∀ s, (next s).Atomic) :
    ((get : Task σ σ) >>= next).Atomic :=
  fun s => rest s s

/-- A check that stands before the rest changes nothing. -/
theorem lift_bind {result : Outcome α} (rest : ∀ a, result = .ok a → (next a).Atomic) :
    ((liftM result : Task σ α) >>= next).Atomic := by
  cases result with
  | ok a => exact rest a rfl
  | error e => exact lift (.error e)

/-- A guard that stands before the rest changes nothing. -/
theorem guard_bind {condition : Prop} [Decidable condition] {e : Error} {after : β → Task σ α}
    (rest : task.Atomic) :
    (if condition then MonadExcept.throw e >>= after else task).Atomic := by
  split
  · exact throw e
  · exact rest

/-- What a task does with its result at the end changes nothing. -/
theorem bind_pure {f : α → β} (h : task.Atomic) : (task >>= fun a => pure (f a)).Atomic := by
  intro s e after failed
  cases run : task.perform s with
  | mk result between =>
    cases result with
    | ok a =>
      rw [perform_bind_of_ok run] at failed
      cases failed
    | error e' =>
      rw [perform_bind_of_error run] at failed
      cases failed
      exact h _ _ _ run

end Atomic

/-! ## Tasks that are alike -/

/-- From every state two tasks give the same result or fail with errors of one kind, and leave the same
behind. -/
def Alike (task task' : Task σ α) : Prop :=
  ∀ s, Outcome.Alike (task.perform s).1 (task'.perform s).1 ∧
    (task.perform s).2 = (task'.perform s).2

namespace Alike

variable {task task' : Task σ α} {next next' : α → Task σ β} {items : List α}

theorem refl (task : Task σ α) : Alike task task := fun _ => ⟨.refl _, rfl⟩

theorem of_eq (same : task = task') : Alike task task' := same ▸ refl task

theorem lift {result result' : Outcome α} (h : Outcome.Alike result result') :
    Alike (liftM result : Task σ α) (liftM result') :=
  fun _ => ⟨h, rfl⟩

theorem inContext (h : Alike task task') (context : String) :
    Alike (task.inContext context) (task'.inContext context) :=
  fun s => ⟨(h s).1.inContext context, (h s).2⟩

theorem bind (first : Alike task task') (rest : ∀ a, Alike (next a) (next' a)) :
    Alike (task >>= next) (task' >>= next') := by
  intro s
  obtain ⟨alike, left⟩ := first s
  generalize run : task.perform s = ran, run' : task'.perform s = ran' at alike left
  obtain ⟨result, between⟩ := ran
  obtain ⟨result', _⟩ := ran'
  obtain rfl := left
  cases alike with
  | ok a =>
    rw [perform_bind_of_ok run, perform_bind_of_ok run']
    exact rest a between
  | error same =>
    rw [perform_bind_of_error run, perform_bind_of_error run']
    exact ⟨.error same, rfl⟩

/-- Tasks that go on from one result are alike if they are where there is a result. -/
theorem bind_lift {result : Outcome α} (rest : ∀ a, result = .ok a → Alike (next a) (next' a)) :
    Alike ((liftM result : Task σ α) >>= next) ((liftM result : Task σ α) >>= next') := by
  cases result with
  | ok a => exact rest a rfl
  | error e => exact fun _ => ⟨.error rfl, rfl⟩

theorem forM {check check' : α → Task σ Unit}
    (each : ∀ item ∈ items, Alike (check item) (check' item)) :
    Alike (items.forM check) (items.forM check') := by
  induction items with
  | nil => exact refl _
  | cons item items ih =>
    obtain ⟨first, rest⟩ := List.forall_mem_cons.mp each
    exact first.bind fun _ => ih rest

/-- Tasks that run others apart, on a state made from theirs, and take over what is left of it. -/
theorem runApart {check check' : Task τ Unit} (alike : Alike check check') (start : σ → τ)
    (left : τ → σ) (a : α) :
    Alike
      (do
        let s ← (get : Task σ σ)
        let (verdict, after) := check.perform (start s)
        set (left after)
        verdict
        return a)
      (do
        let s ← (get : Task σ σ)
        let (verdict, after) := check'.perform (start s)
        set (left after)
        verdict
        return a) := by
  intro s
  obtain ⟨verdict, same⟩ := alike (start s)
  have ended := (lift verdict).bind fun _ => refl (pure a : Task σ α)
  simp only [perform_get_bind, perform_set_bind, same]
  exact ended _

end Alike

end Task

end ConfidentialToken
