import ConfidentialToken.Proofs.Scalar
import ConfidentialToken.Proofs.Suite.Requests
import ConfidentialToken.Proofs.ZeroKnowledge.Witnesses

/-!
# Commitments are linear

A commitment to a list of values is the sum of their multiples, whatever their order, and commitments to
two lists add up to the one to their sums. So sums and differences of tokens open to the sums and
differences of what the tokens open to, and what remains of them in the balance of a transfer is told
here for all lists of openings of one type: the type cancels on each side by itself, although the type
commitment is taken away once for every token and the sides may have different numbers of them.
-/

namespace ConfidentialToken

open PointGroup (combine scale)
open PointGroup.Linear (multiples combine_eq combine_pair scale_eq multiples_add multiples_mul)

variable {P : Type} [PointGroup P] [PointGroup.Linear P]

/-! ## Lists of values -/

namespace PointGroup.Linear

theorem combine_perm {terms terms' : List (Scalar × P)} (perm : terms.Perm terms') :
    combine terms = combine terms' := by
  rw [combine_eq, combine_eq]
  exact (perm.map _).sum_eq

theorem combine_zip_add {u w : List Scalar} (same : u.length = w.length) (points : List P) :
    combine ((List.zipWith (· + ·) u w).zip points) = combine (u.zip points) + combine (w.zip points) := by
  induction points generalizing u w with
  | nil => simp [combine_eq]
  | cons p points ih =>
    cases u with
    | nil =>
      obtain rfl := List.length_eq_zero_iff.mp same.symm
      simp [combine_eq]
    | cons k u =>
      cases w with
      | nil => cases same
      | cons l w =>
        have rest := ih (Nat.succ.inj same)
        simp only [combine_eq] at rest
        simp only [combine_eq, List.zipWith_cons_cons, List.zip_cons_cons, List.map_cons, List.sum_cons,
          rest, map_add]
        abel

theorem multiples_zero (k : Scalar) : multiples (0 : P) k = 0 := by
  have twice := multiples_add k (0 : P) 0
  rw [add_zero] at twice
  exact left_eq_add.mp twice

/-- No multiple of a point but that by zero is neutral, since the order is prime. -/
theorem multiples_eq_zero_iff {p : P} (proper : p ≠ PointGroup.zero) {k : Scalar} :
    multiples p k = 0 ↔ k = 0 := by
  refine ⟨fun neutral => ?_, fun zero => zero ▸ map_zero _⟩
  by_contra nonzero
  refine proper ?_
  calc p
    _ = multiples p 1 := (one_scale p).symm
    _ = multiples p (k.inverse * k) := by rw [Fin.mul_comm, Scalar.mul_inverse nonzero]
    _ = 0 := by rw [multiples_mul, neutral, multiples_zero]

end PointGroup.Linear

/-- There is a commitment to as many values as there are generators. -/
theorem Commitment.ofValues_of_length {P : Type} [PointGroup P] {values : List Scalar}
    {generators : List P} (paired : values.length = generators.length) :
    ofValues values generators = .ok ⟨combine (values.zip generators)⟩ :=
  if_pos paired

/-! ## Sums -/

theorem Scalar.sum_eq (scalars : List Scalar) : sum scalars = scalars.sum := by
  have from_start : ∀ start : Scalar, scalars.foldl (· + ·) start = start + scalars.sum := by
    induction scalars with
    | nil => exact fun start => (add_zero start).symm
    | cons s rest ih =>
      intro start
      rw [List.foldl_cons, ih, List.sum_cons, add_assoc]
  exact (from_start 0).trans (zero_add _)

theorem Opening.total_eq (openings : List Opening) :
    total openings = (openings.map fun opening => opening.value.toNat).sum := by
  induction openings with
  | nil => rfl
  | cons opening rest ih =>
    rw [total, ih]
    rfl

/-- Residues are equal for numbers that are congruent. -/
theorem Scalar.ofNat_eq_iff {m n : Nat} :
    Scalar.ofNat m = Scalar.ofNat n ↔ m ≡ n [MOD groupOrder] :=
  Fin.ext_iff

/-! ## The balance of a transfer -/

namespace TransferProof

variable {g : Generators P} {tokenType : String} {inputOpenings outputOpenings : List Opening}
  {inputs outputs : List (Commitment P)}

/-- What the balance commitment is, when the openings open all tokens and are of one type. -/
theorem point_balanceCommitment_of_opens
    (typedInputs : ∀ opening ∈ inputOpenings, opening.tokenType = tokenType)
    (opensInputs : List.Forall₂ (fun (opening : Opening) token => opening.opens token g = true)
      inputOpenings inputs)
    (typedOutputs : ∀ opening ∈ outputOpenings, opening.tokenType = tokenType)
    (opensOutputs : List.Forall₂ (fun (opening : Opening) token => opening.opens token g = true)
      outputOpenings outputs) (typeBlinding : Scalar) :
    (balanceCommitment inputs outputs (g.commitType tokenType typeBlinding)).point =
      combine [(Scalar.ofNat (Opening.total inputOpenings) -
          Scalar.ofNat (Opening.total outputOpenings), g.valueBase),
        ((inputOpenings.map fun opening => opening.blinding - typeBlinding).sum -
          (outputOpenings.map fun opening => opening.blinding - typeBlinding).sum,
          g.blindingBase)] := by
  rw [point_balanceCommitment (Opening.opens_detyped typedInputs opensInputs typeBlinding)
    (Opening.opens_detyped typedOutputs opensOutputs typeBlinding), combine_pair, Opening.total_eq,
    Opening.total_eq]
  simp only [List.map_map, Function.comp_def]

omit [PointGroup.Linear P] in
/-- What the prover adds up are the blinding factors that are left of the openings. -/
theorem sum_blinding_detype {openings : List Opening} {tokens : List (Commitment P)}
    (paired : openings.length = tokens.length) (typeCommitment : Commitment P) (typeBlinding : Scalar) :
    Scalar.sum ((detype openings tokens typeCommitment typeBlinding).map (·.blinding)) =
      (openings.map fun opening => opening.blinding - typeBlinding).sum := by
  rw [map_blinding_detype paired, Scalar.sum_eq]

/-- A point over the last two generators is a multiple of the last exactly if the other factor is zero. -/
theorem combine_eq_scale_iff (proper : g.valueBase ≠ PointGroup.zero) {value blinding : Scalar} :
    combine [(value, g.valueBase), (blinding, g.blindingBase)] = scale blinding g.blindingBase ↔
      value = 0 := by
  rw [combine_pair, scale_eq, add_eq_right, PointGroup.Linear.multiples_eq_zero_iff proper]

/-- The difference of the blinding factors opens the balance exactly if the values are as many on both
sides, up to multiples of the order. -/
theorem balanceCommitment_opens_iff (proper : g.valueBase ≠ PointGroup.zero)
    (typedInputs : ∀ opening ∈ inputOpenings, opening.tokenType = tokenType)
    (opensInputs : List.Forall₂ (fun (opening : Opening) token => opening.opens token g = true)
      inputOpenings inputs)
    (typedOutputs : ∀ opening ∈ outputOpenings, opening.tokenType = tokenType)
    (opensOutputs : List.Forall₂ (fun (opening : Opening) token => opening.opens token g = true)
      outputOpenings outputs) (typeBlinding : Scalar) :
    (balanceCommitment inputs outputs (g.commitType tokenType typeBlinding)).point =
        scale ((inputOpenings.map fun opening => opening.blinding - typeBlinding).sum -
          (outputOpenings.map fun opening => opening.blinding - typeBlinding).sum) g.blindingBase ↔
      Opening.total inputOpenings ≡ Opening.total outputOpenings [MOD groupOrder] := by
  rw [point_balanceCommitment_of_opens typedInputs opensInputs typedOutputs opensOutputs,
    combine_eq_scale_iff proper, sub_eq_zero, Scalar.ofNat_eq_iff]

end TransferProof

omit [PointGroup.Linear P] in
/-- The prover makes a proof exactly for what its blinding factor opens. -/
theorem ZeroValueProof.exists_prove_iff {g : Generators P} {commitment : Commitment P}
    {blinding : Scalar} {context : List Entry} {draws : Draws} :
    (∃ proof, prove g commitment blinding context draws = .ok proof) ↔
      commitment.point = scale blinding g.blindingBase := by
  unfold prove
  split
  · next differ => exact iff_of_false nofun fun opens => differ opens.symm
  · next same => exact iff_of_true ⟨_, rfl⟩ (not_not.mp same).symm

/-- Commitments do not depend on the order of values and generators, add up with the values, and are those
of tokens over the three generators of tokens. Whatever openings of one type open the tokens of a transfer,
the balance commitment has as its value what the inputs have more than the outputs, and as its blinding
factor the difference of what is left of theirs. This is the factor that the prover computes, and it opens
the balance commitment, so that the proof of this is made, exactly if the values balance modulo the order. -/
theorem Commitment.linear_laws (P : Type) [PointGroup P] [PointGroup.Linear P] :
    (∀ (values values' : List Scalar) (generators generators' : List P),
      values.length = generators.length → values'.length = generators'.length →
      (values.zip generators).Perm (values'.zip generators') →
      ∃ c, ofValues values generators = .ok c ∧ ofValues values' generators' = .ok c) ∧
    (∀ (u w : List Scalar) (generators : List P), u.length = generators.length →
      w.length = generators.length → ∃ c d, ofValues u generators = .ok c ∧
        ofValues w generators = .ok d ∧ ofValues (List.zipWith (· + ·) u w) generators = .ok (c + d)) ∧
    (∀ (g : Generators P) tokenType (value : UInt64) blinding,
      ofValues [Scalar.hash (Bytes.ofText tokenType), Scalar.ofNat value.toNat, blinding] g.toList =
        .ok (g.commitToken tokenType value blinding)) ∧
    ∀ (g : Generators P) tokenType typeBlinding (inputOpenings outputOpenings : List Opening)
      (inputs outputs : List (Commitment P)),
      (∀ opening ∈ inputOpenings, opening.tokenType = tokenType) →
      (∀ opening ∈ outputOpenings, opening.tokenType = tokenType) →
      List.Forall₂ (fun (opening : Opening) token => opening.opens token g = true)
        inputOpenings inputs →
      List.Forall₂ (fun (opening : Opening) token => opening.opens token g = true)
        outputOpenings outputs →
      let typeCommitment := g.commitType tokenType typeBlinding
      let balance := TransferProof.balanceCommitment inputs outputs typeCommitment
      let blinding :=
        Scalar.sum ((detype inputOpenings inputs typeCommitment typeBlinding).map (·.blinding)) -
          Scalar.sum ((detype outputOpenings outputs typeCommitment typeBlinding).map (·.blinding))
      blinding = (inputOpenings.map fun opening => opening.blinding - typeBlinding).sum -
        (outputOpenings.map fun opening => opening.blinding - typeBlinding).sum ∧
      balance.point = combine [(Scalar.ofNat (Opening.total inputOpenings) -
        Scalar.ofNat (Opening.total outputOpenings), g.valueBase), (blinding, g.blindingBase)] ∧
      (g.valueBase ≠ PointGroup.zero →
        (balance.point = scale blinding g.blindingBase ↔
          Opening.total inputOpenings ≡ Opening.total outputOpenings [MOD groupOrder]) ∧
        ∀ context draws, (∃ proof,
            ZeroValueProof.prove g balance blinding context draws = .ok proof) ↔
          Opening.total inputOpenings ≡ Opening.total outputOpenings [MOD groupOrder]) := by
  refine ⟨?order, ?sums, fun _ _ _ _ => rfl, ?balance⟩
  case order =>
    intro values values' generators generators' paired paired' perm
    refine ⟨_, ofValues_of_length paired, ?_⟩
    rw [ofValues_of_length paired', PointGroup.Linear.combine_perm perm]
  case sums =>
    intro u w generators pairedU pairedW
    refine ⟨_, _, ofValues_of_length pairedU, ofValues_of_length pairedW, ?_⟩
    have paired : (List.zipWith (· + ·) u w).length = generators.length := by
      rw [List.length_zipWith, pairedU, pairedW, Nat.min_self]
    rw [ofValues_of_length paired, PointGroup.Linear.combine_zip_add (pairedU.trans pairedW.symm)]
    rfl
  case balance =>
    intro g tokenType typeBlinding inputOpenings outputOpenings inputs outputs typedInputs typedOutputs
      opensInputs opensOutputs typeCommitment balance blinding
    have blinding_eq : blinding =
        (inputOpenings.map fun opening => opening.blinding - typeBlinding).sum -
          (outputOpenings.map fun opening => opening.blinding - typeBlinding).sum :=
      congrArg₂ (· - ·) (TransferProof.sum_blinding_detype opensInputs.length_eq _ _)
        (TransferProof.sum_blinding_detype opensOutputs.length_eq _ _)
    rw [blinding_eq]
    refine ⟨rfl, TransferProof.point_balanceCommitment_of_opens typedInputs opensInputs typedOutputs
      opensOutputs typeBlinding, fun proper => ?_⟩
    have opens := TransferProof.balanceCommitment_opens_iff proper typedInputs opensInputs typedOutputs
      opensOutputs typeBlinding
    exact ⟨opens, fun _ _ => ZeroValueProof.exists_prove_iff.trans opens⟩

namespace Plain

/-- The laws at work: two orders of one commitment, a sum of two, and a token of value 5 that is split into
tokens of the values 2 and 3. It does not balance with two tokens of value 2. -/
theorem split_linear :
    let whole : List Opening := [⟨"EUR", 5, 4⟩]
    let parts : List Opening := [⟨"EUR", 2, 2⟩, ⟨"EUR", 3, 3⟩]
    let less : List Opening := [⟨"EUR", 2, 2⟩, ⟨"EUR", 2, 3⟩]
    let typeCommitment := generators.commitType "EUR" 7
    let blindings (openings : List Opening) := Scalar.sum ((detype openings
      (openings.map (·.commitment generators)) typeCommitment 7).map (·.blinding))
    let balanced (outputs : List Opening) :=
      (TransferProof.balanceCommitment (whole.map (·.commitment generators))
        (outputs.map (·.commitment generators)) typeCommitment).point =
          scale (blindings whole - blindings outputs) generators.blindingBase
    (∃ c, Commitment.ofValues [4, 5] [(⟨2⟩ : Plain), ⟨3⟩] = .ok c ∧
      Commitment.ofValues [5, 4] [(⟨3⟩ : Plain), ⟨2⟩] = .ok c) ∧
    (∃ c d, Commitment.ofValues [4, 5] [(⟨2⟩ : Plain), ⟨3⟩] = .ok c ∧
      Commitment.ofValues [1, 2] [(⟨2⟩ : Plain), ⟨3⟩] = .ok d ∧
      Commitment.ofValues [4 + 1, 5 + 2] [(⟨2⟩ : Plain), ⟨3⟩] = .ok (c + d)) ∧
    balanced parts ∧ ¬balanced less := by
  intro whole parts less typeCommitment blindings balanced
  obtain ⟨order, sums, -, balance⟩ := Commitment.linear_laws Plain
  have opens (openings : List Opening) : List.Forall₂ (fun (opening : Opening) token =>
      opening.opens token generators = true) openings (openings.map (·.commitment generators)) := by
    rw [List.forall₂_map_right_iff, List.forall₂_same]
    exact fun opening _ => decide_eq_true rfl
  have proper : generators.valueBase ≠ PointGroup.zero := by decide
  obtain ⟨-, -, toParts⟩ := balance generators "EUR" 7 whole parts _ _ (by decide) (by decide)
    (opens whole) (opens parts)
  obtain ⟨-, -, toLess⟩ := balance generators "EUR" 7 whole less _ _ (by decide) (by decide)
    (opens whole) (opens less)
  refine ⟨order _ _ _ _ rfl rfl (.swap _ _ _), sums [4, 5] [1, 2] _ rfl rfl, ?_, ?_⟩
  · exact (toParts proper).1.mpr rfl
  · exact mt (toLess proper).1.mp (by decide)

end Plain

end ConfidentialToken
