import ConfidentialToken.Proofs.Ledger.Apply
import ConfidentialToken.Proofs.Validation.Acceptance
import Mathlib.Data.List.Induction

/-!
# Runs of a ledger

A run starts from an empty ledger and goes on by events: the time is set, or a request is submitted
under an anchor. A submission changes the ledger when a validator with the standard rules accepts the
request and the ledger takes the actions; every submission may come with public parameters of its own.
A run keeps the submissions that went through, and an invariant of runs is shown by one induction
(`Run.after_induction`), with a case for the time and a case for a submission that goes through.
-/

namespace ConfidentialToken

/-- What happens to a ledger. -/
inductive Event (P : Type) where
  | setTime (time : UInt64)
  | submit (parameters : PublicParameters P) (logger : Logger) (anchor : String)
      (request : TokenRequest)

/-- A submission that went through, with the actions of its request. -/
structure Applied (P : Type) where
  parameters : PublicParameters P
  anchor : String
  request : TokenRequest
  actions : ValidatedActions P

/-- Validates a request on a ledger and applies its actions. -/
def Ledger.submit {P : Type} [Suite P] (pp : PublicParameters P) (logger : Logger) (anchor : String)
    (request : TokenRequest) : Task Ledger (ValidatedActions P) := do
  let ledger ← get
  let actions ← (((Validator.create pp logger).validate ledger anchor request).perform []).1
  let _ ← apply anchor actions.issues actions.transfers
  return actions

/-- A ledger and the submissions that made it, the oldest first. -/
structure Run (P : Type) where
  ledger : Ledger
  applied : List (Applied P)

namespace Run

variable {P : Type} [Suite P]

/-- The run that begins at a time. -/
def start (time : UInt64) : Run P := ⟨.empty time, []⟩

/-- One event. A request that is refused is not kept. -/
def step (run : Run P) : Event P → Run P
  | .setTime time => { run with ledger := run.ledger.setTime time }
  | .submit pp logger anchor request =>
    match (Ledger.submit pp logger anchor request).perform run.ledger with
    | (.ok actions, after) => ⟨after, run.applied ++ [⟨pp, anchor, request, actions⟩]⟩
    | (.error _, after) => { run with ledger := after }

/-- The run after events. -/
def after (time : UInt64) (events : List (Event P)) : Run P := events.foldl step (start time)

theorem after_nil (time : UInt64) : after time [] = (start time : Run P) := rfl

theorem after_append_singleton (time : UInt64) (events : List (Event P)) (event : Event P) :
    after time (events ++ [event]) = (after time events).step event :=
  List.foldl_append

end Run

/-! ## What a submission does -/

/-- A submission goes through on a ledger: the request is acceptable, and the ledger takes its
actions. -/
structure Applied.GoesThrough {P : Type} [Suite P] (applied : Applied P) (ledger : Ledger)
    (message : Bytes) : Prop where
  acceptable : applied.request.Acceptable applied.parameters ledger applied.anchor message
    applied.actions
  takes : ledger.Takes applied.anchor applied.actions.spent

/-- The ledger after a submission that goes through. -/
def Applied.result {P : Type} [PointGroup P] (applied : Applied P) (ledger : Ledger) : Ledger :=
  ledger.update applied.anchor applied.actions.spent
    (Ledger.created applied.anchor
      (Ledger.outputsOf applied.actions.issues applied.actions.transfers))

/-- A submission is accepted and applied exactly when it goes through, with one result. -/
theorem Ledger.perform_submit_eq_ok_iff {P : Type} [Suite P] {ledger after : Ledger}
    {pp : PublicParameters P} {logger : Logger} {anchor : String} {request : TokenRequest}
    {actions : ValidatedActions P} :
    (submit pp logger anchor request).perform ledger = (.ok actions, after) ↔
      (∃ message, Applied.GoesThrough ⟨pp, anchor, request, actions⟩ ledger message) ∧
        after = Applied.result ⟨pp, anchor, request, actions⟩ ledger := by
  unfold submit
  rw [Task.perform_get_bind]
  simp only [Task.perform_bind, Task.perform_lift, Task.perform_pure, Validator.validate_eq_ok_iff]
  constructor
  · rintro ⟨_, _, ⟨⟨message, acceptable⟩, rfl⟩, made, _, applied, rfl, rfl⟩
    obtain ⟨takes, -, -, rfl⟩ := perform_apply_eq_ok_iff.mp applied
    exact ⟨⟨message, acceptable, takes⟩, rfl⟩
  · rintro ⟨⟨message, acceptable, takes⟩, rfl⟩
    have storable : Storable (outputsOf actions.issues actions.transfers) :=
      fun output mem _ => acceptable.length_output_le output mem
    exact ⟨actions, ledger, ⟨⟨message, acceptable⟩, rfl⟩, _, _,
      perform_apply_eq_ok_iff.mpr ⟨takes, storable, rfl, rfl⟩, rfl, rfl⟩

/-- A ledger that refuses a submission is as it was. -/
theorem Ledger.submit_atomic {P : Type} [Suite P] {pp : PublicParameters P} {logger : Logger}
    {anchor : String} {request : TokenRequest} :
    (submit pp logger anchor request).Atomic :=
  .get_bind fun _ => .lift_bind fun _ _ => apply_atomic.bind_pure

/-- A submission that goes through is kept, and the ledger is its result. -/
theorem Run.step_submit {P : Type} [Suite P] {run : Run P} {applied : Applied P} {message : Bytes}
    (through : applied.GoesThrough run.ledger message) (logger : Logger) :
    run.step (.submit applied.parameters logger applied.anchor applied.request) =
      ⟨applied.result run.ledger, run.applied ++ [applied]⟩ := by
  have submitted : (Ledger.submit applied.parameters logger applied.anchor applied.request).perform
      run.ledger = (.ok applied.actions, applied.result run.ledger) :=
    Ledger.perform_submit_eq_ok_iff.mpr ⟨⟨message, through⟩, rfl⟩
  simp only [step, submitted]

/-- Events go on with a submission that goes through. -/
theorem Run.after_append_submit {P : Type} [Suite P] {time : UInt64} {events : List (Event P)}
    {run : Run P} {applied : Applied P} {message : Bytes} (before : after time events = run)
    (through : applied.GoesThrough run.ledger message) (logger : Logger) :
    after time (events ++ [.submit applied.parameters logger applied.anchor applied.request]) =
      ⟨applied.result run.ledger, run.applied ++ [applied]⟩ := by
  rw [after_append_singleton, before, step_submit through]

/-- All that an event can do: set the time, nothing, or let a submission go through. -/
theorem Run.step_cases {P : Type} [Suite P] (run : Run P) (event : Event P) :
    (∃ time, run.step event = { run with ledger := run.ledger.setTime time }) ∨
    run.step event = run ∨
    ∃ (applied : Applied P) (logger : Logger) (message : Bytes),
      event = .submit applied.parameters logger applied.anchor applied.request ∧
      applied.GoesThrough run.ledger message ∧
      run.step event = ⟨applied.result run.ledger, run.applied ++ [applied]⟩ := by
  cases event with
  | setTime time => exact .inl ⟨time, rfl⟩
  | submit pp logger anchor request =>
    cases submitted : (Ledger.submit pp logger anchor request).perform run.ledger with
    | mk verdict after =>
      cases verdict with
      | error e =>
        refine .inr (.inl ?_)
        simp only [step, submitted, Ledger.submit_atomic _ _ _ submitted]
      | ok actions =>
        obtain ⟨⟨message, through⟩, rfl⟩ := Ledger.perform_submit_eq_ok_iff.mp submitted
        refine .inr (.inr ⟨⟨pp, anchor, request, actions⟩, logger, message, rfl, through, ?_⟩)
        simp only [step, submitted]

/-- What holds at the start and is kept when the time is set and when a submission goes through holds
after any events. -/
theorem Run.after_induction {P : Type} [Suite P] {Q : Run P → Prop} {time : UInt64}
    (base : Q (start time))
    (setTime : ∀ run now, Q run → Q { run with ledger := run.ledger.setTime now })
    (submit : ∀ run (applied : Applied P) message, applied.GoesThrough run.ledger message → Q run →
      Q ⟨applied.result run.ledger, run.applied ++ [applied]⟩)
    (events : List (Event P)) : Q (after time events) := by
  -- from the last event back, since what is kept is said of the run that comes before it
  induction events using List.reverseRecOn with
  | nil => exact base
  | append_singleton events event ih =>
    rw [after_append_singleton]
    rcases (after time events).step_cases event with
      ⟨now, step⟩ | step | ⟨applied, _, message, _, through, step⟩
    · rw [step]
      exact setTime _ now ih
    · rw [step]
      exact ih
    · rw [step]
      exact submit _ applied message through ih

end ConfidentialToken
