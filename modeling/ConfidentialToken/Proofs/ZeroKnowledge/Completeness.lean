import ConfidentialToken.Proofs.PointGroup.Linear
import ConfidentialToken.Proofs.Task
import ConfidentialToken.ZeroKnowledge.Issue
import ConfidentialToken.ZeroKnowledge.Transfer

/-!
# Completeness of the proofs about openings

What a prover makes verifies: the nonce point that a verifier computes from the responses and the
challenge is the one that the prover drew, whatever the challenge is. The proofs of issues and transfers
verify when their parts do. Range proofs are not treated.
-/

namespace ConfidentialToken

open PointGroup (combine scale)
open PointGroup.Linear (multiples combine_pair combine_triple multiples_add multiples_mul)

variable {P : Type} [PointGroup P] [PointGroup.Linear P]

namespace SameTypeProof

omit [PointGroup.Linear P] in
theorem verify_eq_ok_iff {proof : SameTypeProof P} {g : Generators P}
    {tokens : List (Commitment P)} :
    proof.verify g tokens = .ok () ↔ proof.typeCommitment.isIdentity = false ∧
      challengeOf g tokens proof.typeCommitment (proof.nonce g) = proof.challenge := by
  simp only [verify, Outcome.guard_bind_eq_ok_iff, Outcome.guard_eq_ok_iff, Bool.not_eq_true,
    not_not]
  exact and_congr_right fun _ => and_iff_left rfl

/-- The nonce point of responses to a challenge is the one that was drawn. -/
theorem nonce_of_opens {g : Generators P} {typeCommitment : Commitment P} {t r : Scalar}
    (opens : typeCommitment.point = combine [(t, g.typeBase), (r, g.blindingBase)])
    (challenge draw draw' : Scalar) :
    nonce ⟨typeCommitment, challenge, draw + challenge * t, draw' + challenge * r⟩ g =
      combine [(draw, g.typeBase), (draw', g.blindingBase)] := by
  simp only [nonce, opens, combine_pair, combine_triple, map_add, map_neg, multiples_mul,
    multiples_add]
  abel

/-- The nonce point of a proof that was made is the one that was drawn. -/
theorem nonce_prove (g : Generators P) (tokens : List (Commitment P)) (tokenType : String)
    (blinding : Scalar) (draws : Draws) :
    (prove g tokens tokenType blinding draws).nonce g =
      combine [(draws 0, g.typeBase), (draws 1, g.blindingBase)] :=
  nonce_of_opens rfl _ (draws 0) (draws 1)

/-- A proof that was made verifies, unless the type commitment is neutral. -/
theorem verify_prove {g : Generators P} (tokens : List (Commitment P)) {tokenType : String}
    {blinding : Scalar} (draws : Draws)
    (proper : (g.commitType tokenType blinding).isIdentity = false) :
    (prove g tokens tokenType blinding draws).verify g tokens = .ok () := by
  refine verify_eq_ok_iff.mpr ⟨proper, ?_⟩
  rw [nonce_prove]
  rfl

end SameTypeProof

namespace ZeroValueProof

omit [PointGroup.Linear P] in
theorem verify_eq_ok_iff {proof : ZeroValueProof} {g : Generators P} {commitment : Commitment P}
    {context : List Entry} :
    proof.verify g commitment context = .ok () ↔
      challengeOf context commitment (proof.nonce g commitment) = proof.challenge := by
  unfold verify
  split
  · next same => exact iff_of_true rfl same
  · next differ => exact iff_of_false nofun differ

/-- The nonce point of a response to a challenge is the one that was drawn. -/
theorem nonce_of_opens {g : Generators P} {commitment : Commitment P} {blinding : Scalar}
    (opens : scale blinding g.blindingBase = commitment.point) (challenge draw : Scalar) :
    nonce ⟨challenge, draw + challenge * blinding⟩ g commitment = scale draw g.blindingBase := by
  unfold nonce
  rw [← opens]
  simp only [combine_pair, map_add, map_neg, multiples_mul, PointGroup.Linear.scale_eq]
  abel

/-- The response to the challenge of a drawn nonce verifies for a commitment that opens. -/
theorem verify_of_opens {g : Generators P} {commitment : Commitment P} {blinding : Scalar}
    (opens : scale blinding g.blindingBase = commitment.point) (context : List Entry)
    (draw : Scalar) :
    verify ⟨challengeOf context commitment (scale draw g.blindingBase),
      draw + challengeOf context commitment (scale draw g.blindingBase) * blinding⟩ g commitment
        context = .ok () := by
  rw [verify_eq_ok_iff, nonce_of_opens opens]

/-- A proof that was made verifies. -/
theorem verify_of_prove {g : Generators P} {commitment : Commitment P} {blinding : Scalar}
    {context : List Entry} {draws : Draws} {proof : ZeroValueProof}
    (made : prove g commitment blinding context draws = .ok proof) :
    proof.verify g commitment context = .ok () := by
  unfold prove at made
  split at made
  · cases made
  · next opens =>
    obtain rfl := Except.ok.inj made
    exact verify_of_opens (not_not.mp opens) context (draws 0)

end ZeroValueProof

/-! ## Proofs of issues and transfers -/

section

variable {P : Type} [Suite P] {pp : PublicParameters P} {bytes : Bytes}

/-- An issue proof verifies when it can be read and its parts verify. -/
theorem IssueProof.verify_eq_ok_iff {tokens : List (Commitment P)} :
    verify pp tokens bytes = .ok () ↔ tokens ≠ [] ∧ ∃ proof, codec.read bytes = .ok proof ∧
      proof.sameType.verify pp.generators tokens = .ok () ∧
      proof.ranges.verify (tokens.map (· - proof.sameType.typeCommitment)) pp.generators
        pp.bitLength pp.bitLength = .ok () := by
  simp only [verify, Outcome.guard_bind_eq_ok_iff, List.isEmpty_iff, Outcome.bind_eq_ok_iff,
    Outcome.inContext_eq_ok_iff, Outcome.asVerification_eq_ok_iff, Unique.exists_iff]

/-- A transfer proof verifies when it can be read and its parts verify. -/
theorem TransferProof.verify_eq_ok_iff {inputs outputs : List (Commitment P)} :
    verify pp inputs outputs bytes = .ok () ↔ (inputs ≠ [] ∧ outputs ≠ []) ∧
      ∃ proof, codec.read bytes = .ok proof ∧
        proof.sameType.verify pp.generators (inputs ++ outputs) = .ok () ∧
        proof.balance.verify pp.generators
          (balanceCommitment inputs outputs proof.sameType.typeCommitment)
          (balanceContext inputs outputs proof.sameType.typeCommitment) = .ok () ∧
        proof.ranges.verify ((inputs ++ outputs).map (· - proof.sameType.typeCommitment))
          pp.generators pp.bitLength pp.bitLength = .ok () := by
  simp only [verify, Outcome.guard_bind_eq_ok_iff, List.isEmpty_iff, Outcome.bind_eq_ok_iff,
    Outcome.inContext_eq_ok_iff, Outcome.asVerification_eq_ok_iff, Unique.exists_iff, not_or]

end

end ConfidentialToken
