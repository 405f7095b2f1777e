import ConfidentialToken.Action
import ConfidentialToken.Proofs.Task
import Mathlib.Data.List.Nodup

/-!
# Well-formed actions

When the checks of actions succeed, as conditions on their parts. The bounds on the numbers of inputs
and outputs come from here.
-/

namespace ConfidentialToken

variable {P : Type}

theorem checkOutputs_eq_ok_iff {outputs : List (Token P)} :
    checkOutputs outputs = .ok () ↔ outputs ≠ [] ∧ outputs.length ≤ maxOutputs := by
  simp only [checkOutputs, Outcome.guard_bind_eq_ok_iff, Outcome.guard_eq_ok_iff,
    List.isEmpty_iff, Nat.not_lt]
  exact and_congr_right fun _ => and_iff_left rfl

/-- An issue names an issuer and makes some outputs, all of them owned. -/
theorem IssueAction.check_eq_ok_iff {action : IssueAction P} :
    action.check = .ok () ↔ action.issuer.isNone = false ∧
      (action.outputs ≠ [] ∧ action.outputs.length ≤ maxOutputs) ∧
      ∀ output ∈ action.outputs, output.isRedeemed = false := by
  simp only [check, Outcome.guard_bind_eq_ok_iff, Outcome.check_bind_eq_ok_iff,
    checkOutputs_eq_ok_iff, Bool.not_eq_true]
  refine and_congr_right fun _ => and_congr_right fun _ => ?_
  rw [← List.findIdx?_eq_none_iff]
  cases action.outputs.findIdx? Token.isRedeemed with
  | none => exact ⟨fun _ => rfl, fun _ => rfl⟩
  | some i => exact ⟨nofun, nofun⟩

theorem TransferAction.checkInputs_eq_ok_iff {seen : List TokenId} {inputs : List (ActionInput P)} :
    checkInputs seen inputs = .ok () ↔ ((inputs.map ActionInput.id).Nodup ∧
      seen.Disjoint (inputs.map ActionInput.id)) ∧
      ∀ input ∈ inputs, input.token.isRedeemed = false := by
  induction inputs generalizing seen with
  | nil => exact ⟨fun _ => ⟨⟨List.nodup_nil, List.disjoint_nil_right _⟩, nofun⟩, fun _ => rfl⟩
  | cons input rest ih =>
    unfold checkInputs
    rw [List.map_cons, List.nodup_cons, List.disjoint_cons_right, List.forall_mem_cons]
    by_cases mem : input.id ∈ seen
    · rw [if_pos mem]
      exact ⟨nofun, fun h => absurd mem h.1.2.1⟩
    · rw [if_neg mem]
      cases redeemed : input.token.isRedeemed with
      | true => exact ⟨nofun, fun h => nomatch h.2.1⟩
      | false =>
        rw [if_neg Bool.false_ne_true, ih, List.disjoint_cons_left]
        tauto

/-- A transfer spends some inputs, each once and all of them owned, and makes some outputs. -/
theorem TransferAction.check_eq_ok_iff {action : TransferAction P} :
    action.check = .ok () ↔ action.inputs ≠ [] ∧ action.inputs.length ≤ maxOutputs ∧
      (action.outputs ≠ [] ∧ action.outputs.length ≤ maxOutputs) ∧
      (action.inputIds.Nodup ∧ ∀ input ∈ action.inputs, input.token.isRedeemed = false) ∧
      ∀ signer ∈ action.extraSigners, signer.isNone = false := by
  simp only [check, Outcome.guard_bind_eq_ok_iff, Outcome.guard_eq_ok_iff,
    Outcome.check_bind_eq_ok_iff, checkOutputs_eq_ok_iff, checkInputs_eq_ok_iff, List.isEmpty_iff,
    Nat.not_lt, List.disjoint_nil_left, and_true, List.any_eq_true, not_exists, not_and,
    Bool.not_eq_true]
  exact and_congr_right fun _ => and_congr_right fun _ => and_congr_right fun _ =>
    and_congr_right fun _ => and_iff_left rfl

end ConfidentialToken
