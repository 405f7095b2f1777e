import ConfidentialToken.Proofs.ZeroKnowledge.Balance
import ConfidentialToken.Proofs.ZeroKnowledge.Ranges

/-!
# Witnesses

A prover of an issue or of one side of a transfer is given openings and tokens. Its statement is that the
openings are witnesses for the tokens. Part of this is that they have a common type. Once that is known,
the type is taken away, and what is left is a claim of a range proof for each token: the claims are open
and in range exactly when the openings are.
-/

namespace ConfidentialToken

open PointGroup (combine)

/-! ## Statements -/

section

variable {P : Type} [PointGroup P]

/-- Openings are witnesses for tokens of a type: there are some, one for each token, all of the type,
which has a name, with values in range, and each opens its token. -/
structure Witnesses (pp : PublicParameters P) (openings : List Opening)
    (tokens : List (Commitment P)) (tokenType : String) : Prop where
  some : openings ≠ []
  named : tokenType ≠ ""
  typed : ∀ opening ∈ openings, opening.tokenType = tokenType
  inRange : ∀ opening ∈ openings, opening.value.toNat < 2 ^ pp.bitLength
  opens : List.Forall₂ (fun (opening : Opening) token => opening.opens token pp.generators = true)
    openings tokens

theorem Witnesses.tokens_ne_nil {pp : PublicParameters P} {openings : List Opening}
    {tokens : List (Commitment P)} {tokenType : String}
    (witnesses : Witnesses pp openings tokens tokenType) : tokens ≠ [] := by
  rintro rfl
  exact witnesses.some (List.length_eq_zero_iff.mp witnesses.opens.length_eq)

/-- Openings are witnesses for the tokens that they commit to. -/
theorem Witnesses.of_commitment {pp : PublicParameters P} {openings : List Opening}
    {tokenType : String} (some : openings ≠ []) (named : tokenType ≠ "")
    (typed : ∀ opening ∈ openings, opening.tokenType = tokenType)
    (inRange : ∀ opening ∈ openings, opening.value.toNat < 2 ^ pp.bitLength) :
    Witnesses pp openings (openings.map (·.commitment pp.generators)) tokenType := by
  refine ⟨some, named, typed, inRange, ?_⟩
  rw [List.forall₂_map_right_iff, List.forall₂_same]
  exact fun opening _ => decide_eq_true rfl

/-- Values in range are those up to the greatest value. -/
theorem PublicParameters.Made.lt_iff_le_maxValue {pp : PublicParameters P} (made : pp.Made)
    (value : UInt64) : value.toNat < 2 ^ pp.bitLength ↔ value ≤ pp.maxValue := by
  have bits : 2 ^ pp.bitLength ≤ 2 ^ 64 := Nat.pow_le_pow_right Nat.two_pos made.bitLength_le
  have positive : 0 < 2 ^ pp.bitLength := Nat.two_pow_pos _
  have greatest : pp.maxValue.toNat = 2 ^ pp.bitLength - 1 :=
    UInt64.toNat_ofNat_of_lt' (by show 2 ^ pp.bitLength - 1 < 2 ^ 64; omega)
  rw [UInt64.le_iff_toNat_le, greatest]
  omega

omit [PointGroup P] in
theorem commonType_eq_ok_iff {openings : List Opening} {tokens : List (Commitment P)}
    {tokenType : String} :
    commonType openings tokens = .ok tokenType ↔ openings ≠ [] ∧
      openings.length = tokens.length ∧ tokenType ≠ "" ∧
      ∀ opening ∈ openings, opening.tokenType = tokenType := by
  cases openings with
  | nil => exact ⟨nofun, fun h => absurd rfl h.1⟩
  | cons first rest =>
    simp only [commonType, Outcome.guard_bind_eq_ok_iff, ne_eq, not_not, reduceCtorEq,
      not_false_eq_true, true_and]
    refine and_congr_right fun _ => ?_
    have same : (first :: rest).findIdx? (fun opening => decide ¬opening.tokenType = first.tokenType) =
        none ↔ ∀ opening ∈ first :: rest, opening.tokenType = first.tokenType := by
      simp [List.findIdx?_eq_none_iff]
    cases found : (first :: rest).findIdx? (fun opening =>
        decide ¬opening.tokenType = first.tokenType) with
    | none =>
      have same := same.mp found
      constructor
      · rintro ⟨named, ⟨⟩⟩
        exact ⟨named, same⟩
      · rintro ⟨named, typed⟩
        obtain rfl := typed first List.mem_cons_self
        exact ⟨named, rfl⟩
    | some i =>
      refine ⟨nofun, fun ⟨_, typed⟩ => ?_⟩
      obtain rfl := typed first List.mem_cons_self
      exact nomatch found.symm.trans (same.mpr typed)

/-! ## De-typed tokens -/

theorem length_detype {openings : List Opening} {tokens : List (Commitment P)}
    (paired : openings.length = tokens.length) (typeCommitment : Commitment P)
    (typeBlinding : Scalar) :
    (detype openings tokens typeCommitment typeBlinding).length = tokens.length := by
  rw [detype, List.length_zipWith, paired, Nat.min_self]

theorem map_commitment_detype {openings : List Opening} {tokens : List (Commitment P)}
    (paired : openings.length = tokens.length) (typeCommitment : Commitment P)
    (typeBlinding : Scalar) :
    (detype openings tokens typeCommitment typeBlinding).map RangeProofs.Claim.commitment =
      tokens.map (· - typeCommitment) := by
  induction openings generalizing tokens with
  | nil =>
    obtain rfl := List.length_eq_zero_iff.mp paired.symm
    rfl
  | cons opening openings ih =>
    cases tokens with
    | nil => cases paired
    | cons token tokens => exact congrArg _ (ih (Nat.succ.inj paired))

theorem map_blinding_detype {openings : List Opening} {tokens : List (Commitment P)}
    (paired : openings.length = tokens.length) (typeCommitment : Commitment P)
    (typeBlinding : Scalar) :
    (detype openings tokens typeCommitment typeBlinding).map RangeProofs.Claim.blinding =
      openings.map fun opening => opening.blinding - typeBlinding := by
  induction openings generalizing tokens with
  | nil => rfl
  | cons opening openings ih =>
    cases tokens with
    | nil => cases paired
    | cons token tokens => exact congrArg _ (ih (Nat.succ.inj paired))

end

section

variable {P : Type} [PointGroup P] [PointGroup.Linear P] {g : Generators P}

/-- An opening of the type opens a token when what is left of it opens the token less the commitment to
the type. -/
theorem Opening.opens_iff_detyped (opening : Opening) (token : Commitment P) (typeBlinding : Scalar) :
    RangeProofs.Claim.Opens ⟨token - g.commitType opening.tokenType typeBlinding, opening.value,
      opening.blinding - typeBlinding⟩ g ↔ opening.opens token g = true := by
  have own := g.opens_commitToken opening.tokenType opening.value opening.blinding typeBlinding
  unfold RangeProofs.Claim.Opens
  unfold ValueOpening.Opens at own
  rw [← own, opens, decide_eq_true_iff]
  show token.point - _ = (opening.commitment g).point - _ ↔ _
  rw [sub_left_inj]
  constructor
  · intro same
    cases token
    exact congrArg Commitment.mk same.symm
  · rintro rfl
    rfl

/-- What is left of witnesses is in range and open exactly when they are in range and open the tokens. -/
theorem forall_detype_iff {bits : Nat} {openings : List Opening} {tokens : List (Commitment P)}
    {tokenType : String} (paired : openings.length = tokens.length)
    (typed : ∀ opening ∈ openings, opening.tokenType = tokenType) (typeBlinding : Scalar) :
    (∀ claim ∈ detype openings tokens (g.commitType tokenType typeBlinding) typeBlinding,
      claim.value.toNat < 2 ^ bits ∧ claim.Opens g) ↔
    (∀ opening ∈ openings, opening.value.toNat < 2 ^ bits) ∧
      List.Forall₂ (fun (opening : Opening) token => opening.opens token g = true) openings tokens := by
  induction openings generalizing tokens with
  | nil =>
    obtain rfl := List.length_eq_zero_iff.mp paired.symm
    exact ⟨fun _ => ⟨nofun, .nil⟩, fun _ => nofun⟩
  | cons opening openings ih =>
    cases tokens with
    | nil => cases paired
    | cons token tokens =>
      obtain ⟨rfl, typed⟩ := List.forall_mem_cons.mp typed
      show (∀ claim ∈ _ :: detype openings tokens _ typeBlinding, _) ↔ _
      rw [List.forall_mem_cons, List.forall_mem_cons, List.forall₂_cons, ih (Nat.succ.inj paired) typed,
        opening.opens_iff_detyped]
      tauto

/-- Openings of one type open what is left of their tokens. -/
theorem Opening.opens_detyped {openings : List Opening} {tokens : List (Commitment P)}
    {tokenType : String} (typed : ∀ opening ∈ openings, opening.tokenType = tokenType)
    (opens : List.Forall₂ (fun (opening : Opening) token => opening.opens token g = true) openings
      tokens) (typeBlinding : Scalar) :
    List.Forall₂ (fun c (opening : ValueOpening) => opening.Opens g c)
      (tokens.map (· - g.commitType tokenType typeBlinding))
      (openings.map fun opening => ⟨opening.value.toNat, opening.blinding - typeBlinding⟩) := by
  rw [List.forall₂_map_left_iff, List.forall₂_map_right_iff]
  refine ((List.forall₂_and_left _ _).mpr ⟨typed, opens⟩).flip.imp ?_
  rintro token opening ⟨rfl, opens⟩
  exact (opening.opens_iff_detyped token typeBlinding).mpr opens

end

end ConfidentialToken
