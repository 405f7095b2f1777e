import ConfidentialToken.Proofs.Parameters
import ConfidentialToken.Proofs.PointGroup.Linear
import ConfidentialToken.Proofs.Suite.Plain
import ConfidentialToken.ZeroKnowledge.Transfer
import ConfidentialToken.Action
import Mathlib.Data.List.Forall2

/-!
# What the statement of a transfer proof implies

A transfer proof is checked against three statements: the type commitment has no value, the balance
commitment is a blinding alone, and every token less the type commitment is a commitment to a value in
range. Whoever can open all three has inputs and outputs of one type and of equal value, as integers, or
else holds a relation between two generators whose logarithms nobody knows. That a proof shows knowledge
of such openings is a matter of the proofs themselves and not shown here.
-/

namespace ConfidentialToken

open PointGroup (combine scale)
open PointGroup.Linear (multiples combine_eq combine_pair combine_triple scale_eq)

variable {P : Type} [PointGroup P] [PointGroup.Linear P]

/-! ## Sums of commitments -/

theorem Scalar.ofNat_add (m n : Nat) : Scalar.ofNat (m + n) = Scalar.ofNat m + Scalar.ofNat n :=
  Fin.ext (Nat.add_mod m n groupOrder)

/-- The residue tells numbers below the order apart. -/
theorem Scalar.ofNat_inj {m n : Nat} (hm : m < groupOrder) (hn : n < groupOrder)
    (same : Scalar.ofNat m = Scalar.ofNat n) : m = n := by
  have same : m % groupOrder = n % groupOrder := congrArg Fin.val same
  rwa [Nat.mod_eq_of_lt hm, Nat.mod_eq_of_lt hn] at same

theorem Commitment.sum_point (commitments : List (Commitment P)) :
    (Commitment.sum commitments).point = (commitments.map Commitment.point).sum := by
  have from_start : ∀ start : Commitment P, (commitments.foldl (· + ·) start).point =
      start.point + (commitments.map Commitment.point).sum := by
    induction commitments with
    | nil => exact fun start => (add_zero start.point).symm
    | cons c rest ih =>
      intro start
      rw [List.foldl_cons, ih, List.map_cons, List.sum_cons, ← add_assoc]
      rfl
  exact (from_start 0).trans (zero_add _)

/-- The opening of a commitment without a type: a value and a blinding factor. -/
structure ValueOpening where
  value : Nat
  blinding : Scalar

/-- The opening opens a commitment over the value base and the blinding base. -/
def ValueOpening.Opens (opening : ValueOpening) (g : Generators P) (c : Commitment P) : Prop :=
  c.point = combine [(Scalar.ofNat opening.value, g.valueBase), (opening.blinding, g.blindingBase)]

/-- Sums of commitments open to the sums of what they open to. -/
theorem ValueOpening.sum_opens {g : Generators P} {commitments : List (Commitment P)}
    {openings : List ValueOpening}
    (h : List.Forall₂ (fun c (opening : ValueOpening) => opening.Opens g c) commitments openings) :
    (Commitment.sum commitments).point =
      multiples g.valueBase (Scalar.ofNat (openings.map ValueOpening.value).sum) +
        multiples g.blindingBase (openings.map ValueOpening.blinding).sum := by
  rw [Commitment.sum_point]
  induction h with
  | nil => simp [Scalar.ofNat]
  | cons opens _ ih =>
    rw [List.map_cons, List.sum_cons, ih, opens, combine_pair]
    simp only [List.map_cons, List.sum_cons, Scalar.ofNat_add, map_add]
    abel

/-! ## Values in range -/

/-- The values of so few openings that are in range do not wrap around. -/
theorem ValueOpening.sum_value_lt {openings : List ValueOpening} {bits : Nat} (supported : bits ≤ 64)
    (few : openings.length ≤ maxOutputs) (inRange : ∀ opening ∈ openings, opening.value < 2 ^ bits) :
    (openings.map ValueOpening.value).sum < groupOrder := by
  have total : (openings.map ValueOpening.value).sum ≤ openings.length * 2 ^ 64 := by
    clear few
    induction openings with
    | nil => exact Nat.zero_le _
    | cons opening rest ih =>
      obtain ⟨first, inRange⟩ := List.forall_mem_cons.mp inRange
      have first : opening.value < 2 ^ 64 := first.trans_le (Nat.pow_le_pow_right Nat.two_pos supported)
      have rest := ih inRange
      rw [List.map_cons, List.sum_cons, List.length_cons]
      omega
  have bound : openings.length * 2 ^ 64 ≤ maxOutputs * 2 ^ 64 := Nat.mul_le_mul_right _ few
  have order : maxOutputs * 2 ^ 64 < groupOrder := by decide
  omega

omit [PointGroup.Linear P] in
/-- Openings of a list of commitments in range are in range. -/
private theorem inRange_of_forall₂ {g : Generators P} {bits : Nat}
    {commitments : List (Commitment P)} {openings : List ValueOpening}
    (h : List.Forall₂ (fun c (opening : ValueOpening) => opening.Opens g c ∧
      opening.value < 2 ^ bits) commitments openings) :
    ∀ opening ∈ openings, opening.value < 2 ^ bits := by
  induction h with
  | nil => exact nofun
  | cons first _ ih => exact List.forall_mem_cons.mpr ⟨first.2, ih⟩

/-! ## Balance -/

/-- A token is what its de-typed commitment opens to and what the type commitment opens to, together. -/
theorem Commitment.point_of_detyped {g : Generators P} {token typeCommitment : Commitment P}
    {t r : Scalar} {opening : ValueOpening}
    (typed : typeCommitment.point = combine [(t, g.typeBase), (r, g.blindingBase)])
    (opens : opening.Opens g (token - typeCommitment)) :
    token.point = combine [(t, g.typeBase), (Scalar.ofNat opening.value, g.valueBase),
      (r + opening.blinding, g.blindingBase)] := by
  have detyped : token.point - typeCommitment.point = combine
      [(Scalar.ofNat opening.value, g.valueBase), (opening.blinding, g.blindingBase)] := opens
  rw [sub_eq_iff_eq_add.mp detyped, typed]
  simp only [combine_pair, combine_triple, map_add]
  abel

/-- A token less the commitment to its type opens to its value. -/
theorem Generators.opens_commitToken (g : Generators P) (tokenType : String) (value : UInt64)
    (blinding typeBlinding : Scalar) : ValueOpening.Opens ⟨value.toNat, blinding - typeBlinding⟩ g
      (g.commitToken tokenType value blinding - g.commitType tokenType typeBlinding) := by
  show (g.commitToken tokenType value blinding).point - (g.commitType tokenType typeBlinding).point =
    _
  simp only [commitToken, commitType, combine_pair, combine_triple, map_sub]
  abel

/-- What the balance commitment is, once all de-typed tokens are opened. -/
theorem TransferProof.point_balanceCommitment {g : Generators P} {inputs outputs : List (Commitment P)}
    {typeCommitment : Commitment P} {spent gained : List ValueOpening}
    (spentOpens : List.Forall₂ (fun c (opening : ValueOpening) => opening.Opens g c)
      (inputs.map (· - typeCommitment)) spent)
    (gainedOpens : List.Forall₂ (fun c (opening : ValueOpening) => opening.Opens g c)
      (outputs.map (· - typeCommitment)) gained) :
    (balanceCommitment inputs outputs typeCommitment).point =
      multiples g.valueBase (Scalar.ofNat (spent.map ValueOpening.value).sum -
          Scalar.ofNat (gained.map ValueOpening.value).sum) +
        multiples g.blindingBase
          ((spent.map ValueOpening.blinding).sum - (gained.map ValueOpening.blinding).sum) := by
  show (Commitment.sum (inputs.map (· - typeCommitment))).point -
    (Commitment.sum (outputs.map (· - typeCommitment))).point = _
  rw [ValueOpening.sum_opens spentOpens, ValueOpening.sum_opens gainedOpens, map_sub, map_sub]
  abel

/-- The statement of a transfer proof implies conservation. From openings of the type commitment, the
balance commitment and the de-typed tokens it follows that all tokens are of the one type, and that the
values balance as integers or the openings give a relation between the last two generators. -/
theorem TransferProof.conserves_of_openings (pp : PublicParameters P) (made : pp.Made)
    (inputs outputs : List (Commitment P)) (fewInputs : inputs.length ≤ maxOutputs)
    (fewOutputs : outputs.length ≤ maxOutputs) (typeCommitment : Commitment P) (t r x : Scalar)
    (spent gained : List ValueOpening)
    (typed : typeCommitment.point =
      combine [(t, pp.generators.typeBase), (r, pp.generators.blindingBase)])
    (balanced : (balanceCommitment inputs outputs typeCommitment).point =
      scale x pp.generators.blindingBase)
    (spentOpens : List.Forall₂ (fun c (opening : ValueOpening) => opening.Opens pp.generators c ∧
      opening.value < 2 ^ pp.bitLength) (inputs.map (· - typeCommitment)) spent)
    (gainedOpens : List.Forall₂ (fun c (opening : ValueOpening) => opening.Opens pp.generators c ∧
      opening.value < 2 ^ pp.bitLength) (outputs.map (· - typeCommitment)) gained) :
    List.Forall₂ (fun token (opening : ValueOpening) => token.point = combine
      [(t, pp.generators.typeBase), (Scalar.ofNat opening.value, pp.generators.valueBase),
        (r + opening.blinding, pp.generators.blindingBase)]) (inputs ++ outputs) (spent ++ gained) ∧
    ((spent.map ValueOpening.value).sum = (gained.map ValueOpening.value).sum ∨
      Scalar.ofNat (spent.map ValueOpening.value).sum -
          Scalar.ofNat (gained.map ValueOpening.value).sum ≠ 0 ∧
      combine [(Scalar.ofNat (spent.map ValueOpening.value).sum -
          Scalar.ofNat (gained.map ValueOpening.value).sum, pp.generators.valueBase),
        ((spent.map ValueOpening.blinding).sum - (gained.map ValueOpening.blinding).sum - x,
          pp.generators.blindingBase)] = PointGroup.zero) := by
  have opensSpent := spentOpens.imp fun _ _ h => h.1
  have opensGained := gainedOpens.imp fun _ _ h => h.1
  constructor
  · refine List.rel_append ?_ ?_
    · exact (List.forall₂_map_left_iff.mp opensSpent).imp fun _ _ =>
        Commitment.point_of_detyped typed
    · exact (List.forall₂_map_left_iff.mp opensGained).imp fun _ _ =>
        Commitment.point_of_detyped typed
  by_cases equal : (spent.map ValueOpening.value).sum = (gained.map ValueOpening.value).sum
  · exact .inl equal
  refine .inr ⟨fun same => equal ?_, ?_⟩
  · -- neither sum wraps around, so equal residues are equal sums
    have lengthSpent : spent.length ≤ maxOutputs := by
      rwa [← spentOpens.length_eq, List.length_map]
    have lengthGained : gained.length ≤ maxOutputs := by
      rwa [← gainedOpens.length_eq, List.length_map]
    exact Scalar.ofNat_inj
      (ValueOpening.sum_value_lt made.bitLength_le lengthSpent (inRange_of_forall₂ spentOpens))
      (ValueOpening.sum_value_lt made.bitLength_le lengthGained (inRange_of_forall₂ gainedOpens))
      (sub_eq_zero.mp same)
  · have difference := (point_balanceCommitment opensSpent opensGained).symm.trans balanced
    rw [scale_eq] at difference
    simp only [combine_eq, List.map_cons, List.map_nil, List.sum_cons, List.sum_nil, add_zero]
    rw [map_sub (multiples pp.generators.blindingBase), ← difference]
    show _ = (0 : P)
    abel

/-- The statement at work: a token of value 5 is split into tokens of the values 2 and 3. -/
theorem TransferProof.split_conserves :
    let g : Generators Plain := .default
    let inputs := [g.commitToken "EUR" 5 4]
    let outputs := [g.commitToken "EUR" 2 2, g.commitToken "EUR" 3 3]
    let spent : List ValueOpening := [⟨5, 4 - 1⟩]
    let gained : List ValueOpening := [⟨2, 2 - 1⟩, ⟨3, 3 - 1⟩]
    List.Forall₂ (fun token (opening : ValueOpening) => token.point = combine
      [(Scalar.hash (Bytes.ofText "EUR"), g.typeBase), (Scalar.ofNat opening.value, g.valueBase),
        (1 + opening.blinding, g.blindingBase)]) (inputs ++ outputs) (spent ++ gained) ∧
    ((spent.map ValueOpening.value).sum = (gained.map ValueOpening.value).sum ∨
      Scalar.ofNat (spent.map ValueOpening.value).sum -
          Scalar.ofNat (gained.map ValueOpening.value).sum ≠ 0 ∧
      combine [(Scalar.ofNat (spent.map ValueOpening.value).sum -
          Scalar.ofNat (gained.map ValueOpening.value).sum, g.valueBase),
        ((spent.map ValueOpening.blinding).sum - (gained.map ValueOpening.blinding).sum - 0,
          g.blindingBase)] = PointGroup.zero) := by
  intro g inputs outputs spent gained
  have opens := fun value blinding => g.opens_commitToken "EUR" value blinding 1
  have spentOpens : List.Forall₂ (fun c (opening : ValueOpening) => opening.Opens g c)
      (inputs.map (· - g.commitType "EUR" 1)) spent :=
    .cons (opens 5 4) .nil
  have gainedOpens : List.Forall₂ (fun c (opening : ValueOpening) => opening.Opens g c)
      (outputs.map (· - g.commitType "EUR" 1)) gained :=
    .cons (opens 2 2) (.cons (opens 3 3) .nil)
  have values : Scalar.ofNat (spent.map ValueOpening.value).sum -
      Scalar.ofNat (gained.map ValueOpening.value).sum = 0 := sub_self _
  have blindings : (spent.map ValueOpening.blinding).sum -
      (gained.map ValueOpening.blinding).sum = 0 := by decide +kernel
  have balanced : (balanceCommitment inputs outputs (g.commitType "EUR" 1)).point =
      scale 0 g.blindingBase := by
    rw [point_balanceCommitment spentOpens gainedOpens, values, blindings, map_zero, zero_add]
    rfl
  exact conserves_of_openings .default .default inputs outputs (by decide) (by decide)
    (g.commitType "EUR" 1) _ _ 0 spent gained rfl balanced
    (.cons ⟨opens 5 4, by decide⟩ .nil)
    (.cons ⟨opens 2 2, by decide⟩ (.cons ⟨opens 3 3, by decide⟩ .nil))

end ConfidentialToken
