import ConfidentialToken.Proofs.Ledger.Consistent

/-!
# Calls of a ledger

A ledger is made at a time, and then it is called: the time is set, or actions are applied under an
anchor. Nothing is asked of the actions. They need not have been validated, and a call may fail; the
next call finds the ledger as the failed one left it. What every ledger has in common is shown by one
induction over the calls (`Ledger.afterCalls_induction`), with a case for the time and a case for actions
that are applied.
-/

namespace ConfidentialToken.Ledger

variable {P : Type} [PointGroup P] {ledger : Ledger}

/-- Outputs that can be stored have owners whose lengths can be written. -/
theorem Storable.fits {outputs : List (Token P)} (storable : Storable outputs) :
    ∀ output ∈ outputs, output.isRedeemed = false → output.Fits := by
  intro output mem owned
  have short := storable output mem owned
  rw [Token.length_toBytes] at short
  have owner : output.owner.bytes.length ≤ Wire.sizeLimit := by omega
  exact Nat.lt_of_le_of_lt owner (by decide)

/-- A call of a ledger: the time is set, or actions are applied. There are no more outputs than 64 bits
number, since they are all in memory. -/
inductive Call (P : Type) where
  | setTime (time : UInt64)
  | apply (anchor : String) (issues : List (IssueAction P)) (transfers : List (TransferAction P))
      (numbered : (outputsOf issues transfers).length < UInt64.size)

/-- The ledger as a call leaves it, also when the call fails. -/
def perform (ledger : Ledger) : Call P → Ledger
  | .setTime time => ledger.setTime time
  | .apply anchor issues transfers _ =>
    ((Ledger.apply anchor issues transfers).perform ledger).2

/-- The ledger that is made at a time, after calls. -/
def afterCalls (time : UInt64) (calls : List (Call P)) : Ledger := calls.foldl perform (.empty time)

/-- All that a call can do: set the time, nothing, or spend and store tokens. -/
theorem perform_cases (ledger : Ledger) (call : Call P) :
    (∃ time, ledger.perform call = ledger.setTime time) ∨
    ledger.perform call = ledger ∨
    ∃ (anchor : String) (spent : List TokenId) (outputs : List (Token P)),
      ledger.Takes anchor spent ∧ Storable outputs ∧ outputs.length < UInt64.size ∧
      ledger.perform call = ledger.update anchor spent (created anchor outputs) := by
  cases call with
  | setTime time => exact .inl ⟨time, rfl⟩
  | apply anchor issues transfers numbered =>
    cases applied : (Ledger.apply anchor issues transfers).perform ledger with
    | mk verdict after =>
      cases verdict with
      | error e =>
        refine .inr (.inl ?_)
        simp only [perform, applied, apply_atomic _ _ _ applied]
      | ok made =>
        obtain ⟨takes, storable, -, rfl⟩ := perform_apply_eq_ok_iff.mp applied
        refine .inr (.inr ⟨anchor, _, _, takes, storable, numbered, ?_⟩)
        simp only [perform, applied]

/-- What holds at first and is kept when the time is set and when tokens are spent and stored holds
after any calls. -/
theorem afterCalls_induction {Q : Ledger → Prop} {time : UInt64} (base : Q (.empty time))
    (setTime : ∀ ledger now, Q ledger → Q (ledger.setTime now))
    (update : ∀ ledger anchor spent (outputs : List (Token P)), ledger.Takes anchor spent →
      Storable outputs → outputs.length < UInt64.size → Q ledger →
      Q (ledger.update anchor spent (created anchor outputs)))
    (calls : List (Call P)) : Q (afterCalls time calls) := by
  refine List.foldlRecOn calls perform base ?_
  intro ledger h call _
  rcases ledger.perform_cases call with
    ⟨now, step⟩ | step | ⟨anchor, spent, outputs, takes, storable, few, step⟩
  · rw [step]
    exact setTime ledger now h
  · rw [step]
    exact h
  · rw [step]
    exact update ledger anchor spent outputs takes storable few h

theorem Consistent.afterCalls (time : UInt64) (calls : List (Call P)) :
    Consistent P (afterCalls time calls) := by
  refine afterCalls_induction (.empty time) ?_ ?_ calls
  · intro ledger now h
    exact h.setTime now
  · intro ledger anchor spent outputs _ storable _ h
    exact h.update storable.fits

end ConfidentialToken.Ledger
