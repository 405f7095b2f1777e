import ConfidentialToken.Proofs.Scalar
import ConfidentialToken.Proofs.Suite.Plain
import ConfidentialToken.Proofs.ZeroKnowledge.Completeness

/-!
# Extraction from the proofs about openings

A verifier recomputes the nonce point of a proof from the challenge and the responses. Whoever answers two
challenges from one nonce point knows what the proof is a proof of knowledge of: the differences of the
responses, divided by the difference of the challenges, open the commitment. This is the converse of
completeness, and together they fix the signs and the bases in the recomputed point. That a prover who is
accepted often can be made to answer twice is a matter of the hash and not shown here.
-/

namespace ConfidentialToken

open PointGroup (combine scale)
open PointGroup.Linear (multiples combine_pair combine_triple multiples_add multiples_mul)

variable {P : Type} [PointGroup P] [PointGroup.Linear P]

/-- Two answers from one nonce point give the multiple of a point by the difference of the challenges,
which is not zero, and so the point. -/
theorem PointGroup.Linear.eq_of_fork {point answer answer' : P} {e e' : Scalar} (differ : e ≠ e')
    (fork : answer - multiples point e = answer' - multiples point e') :
    point = multiples (answer - answer') (e - e').inverse := by
  have multiple : multiples point (e - e') = answer - answer' := by
    rw [map_sub, sub_eq_sub_iff_sub_eq_sub.mp fork]
  calc point
    _ = multiples point 1 := (one_scale point).symm
    _ = multiples point ((e - e').inverse * (e - e')) := by
      rw [Fin.mul_comm, Scalar.mul_inverse (sub_ne_zero.mpr differ)]
    _ = multiples (answer - answer') (e - e').inverse := by rw [multiples_mul, multiple]

/-- Two proofs about a type commitment open it to a type and a blinding factor. -/
theorem SameTypeProof.opens_of_fork {g : Generators P} {typeCommitment : Commitment P}
    {e e' t t' b b' : Scalar} (differ : e ≠ e')
    (fork : nonce ⟨typeCommitment, e, t, b⟩ g = nonce ⟨typeCommitment, e', t', b'⟩ g) :
    typeCommitment.point = combine [((t - t') * (e - e').inverse, g.typeBase),
      ((b - b') * (e - e').inverse, g.blindingBase)] := by
  have recomputed : ∀ e t b, nonce ⟨typeCommitment, e, t, b⟩ g =
      multiples g.typeBase t + multiples g.blindingBase b - multiples typeCommitment.point e := by
    intro e t b
    rw [nonce, combine_triple, map_neg, ← sub_eq_add_neg]
  have difference : multiples g.typeBase t + multiples g.blindingBase b -
      (multiples g.typeBase t' + multiples g.blindingBase b') =
      multiples g.typeBase (t - t') + multiples g.blindingBase (b - b') := by
    rw [map_sub, map_sub]
    abel
  rw [recomputed, recomputed] at fork
  rw [PointGroup.Linear.eq_of_fork differ fork, difference, multiples_add, ← multiples_mul,
    ← multiples_mul, Fin.mul_comm _ (t - t'), Fin.mul_comm _ (b - b'), combine_pair]

/-- Two proofs about a commitment show it a multiple of the blinding base. -/
theorem ZeroValueProof.opens_of_fork {g : Generators P} {commitment : Commitment P}
    {e e' s s' : Scalar} (differ : e ≠ e')
    (fork : nonce ⟨e, s⟩ g commitment = nonce ⟨e', s'⟩ g commitment) :
    commitment.point = scale ((s - s') * (e - e').inverse) g.blindingBase := by
  have recomputed : ∀ e s, nonce ⟨e, s⟩ g commitment =
      multiples g.blindingBase s - multiples commitment.point e := by
    intro e s
    rw [nonce, combine_pair, map_neg, ← sub_eq_add_neg]
  rw [recomputed, recomputed] at fork
  rw [PointGroup.Linear.eq_of_fork differ fork, ← map_sub, ← multiples_mul, Fin.mul_comm]
  rfl

/-- Special soundness. Whatever the generators, the commitment and the numbers are: if two challenges that
differ are answered from one nonce point, then the quotients of the differences open the commitment, over
the type base and the blinding base for the one kind of proof, and over the blinding base for the other. -/
theorem opens_of_two_answers (g : Generators P) :
    (∀ (typeCommitment : Commitment P) (e e' t t' b b' : Scalar), e ≠ e' →
      SameTypeProof.nonce ⟨typeCommitment, e, t, b⟩ g =
        SameTypeProof.nonce ⟨typeCommitment, e', t', b'⟩ g →
      typeCommitment.point = combine [((t - t') * (e - e').inverse, g.typeBase),
        ((b - b') * (e - e').inverse, g.blindingBase)]) ∧
    ∀ (commitment : Commitment P) (e e' s s' : Scalar), e ≠ e' →
      ZeroValueProof.nonce ⟨e, s⟩ g commitment = ZeroValueProof.nonce ⟨e', s'⟩ g commitment →
      commitment.point = scale ((s - s') * (e - e').inverse) g.blindingBase :=
  ⟨fun _ _ _ _ _ _ _ differ fork => SameTypeProof.opens_of_fork differ fork,
    fun _ _ _ _ _ differ fork => ZeroValueProof.opens_of_fork differ fork⟩

/-- The challenges 1 and 2 to a commitment to a type, and to a commitment that is a blinding alone, answered
from the nonces that a prover drew once. -/
theorem Plain.opens_of_two_answers_default :
    let g : Generators Plain := .default
    let t := Scalar.hash (Bytes.ofText "EUR")
    let typeCommitment := g.commitType "EUR" 5
    let commitment : Commitment Plain := ⟨scale 7 g.blindingBase⟩
    typeCommitment.point = combine
      [((3 + 1 * t - (3 + 2 * t)) * Scalar.inverse (1 - 2), g.typeBase),
        ((4 + 1 * 5 - (4 + 2 * 5)) * Scalar.inverse (1 - 2), g.blindingBase)] ∧
    commitment.point = scale ((6 + 1 * 7 - (6 + 2 * 7)) * Scalar.inverse (1 - 2)) g.blindingBase := by
  intro g t typeCommitment commitment
  have differ : (1 : Scalar) ≠ 2 := by decide
  have typed : typeCommitment.point = combine [(t, g.typeBase), (5, g.blindingBase)] := rfl
  have blinded : scale 7 g.blindingBase = commitment.point := rfl
  obtain ⟨opened, multiple⟩ := opens_of_two_answers g
  constructor
  · exact opened typeCommitment 1 2 _ _ _ _ differ
      ((SameTypeProof.nonce_of_opens typed 1 3 4).trans
        (SameTypeProof.nonce_of_opens typed 2 3 4).symm)
  · exact multiple commitment 1 2 _ _ differ
      ((ZeroValueProof.nonce_of_opens blinded 1 6).trans
        (ZeroValueProof.nonce_of_opens blinded 2 6).symm)

end ConfidentialToken
