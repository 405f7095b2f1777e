import ConfidentialToken.Proofs.Wire.Proofs
import ConfidentialToken.Proofs.ZeroKnowledge.Completeness

/-!
# Runs of the range prover

Range proofs are made one by one, each with its own place and its own draws, and the run ends with the
first that fails. When the range prover of the suite does on these calls what it is relied on to do, a
run goes through exactly when every claim is true, and its proofs are accepted against the commitments of
the claims. Nothing is assumed about other calls: draws can be such that no proof is made, or that one is
made which is not accepted. How many bytes a proof takes is not left to the calls: range provers document
it as a function of the bit length. Of the range prover that programs run it is shown how it can fail, and
that its proofs have this size.
-/

namespace ConfidentialToken

open PointGroup (combine)

/-- Draws are skipped one after another. -/
theorem Draws.skip_skip (draws : Draws) (m n : Nat) : (draws.skip m).skip n = draws.skip (m + n) :=
  funext fun i => congrArg draws (Nat.add_assoc m n i).symm

/-- The draws of a call in a run are those of the call before in the rest of the run. -/
theorem Draws.skip_mul (draws : Draws) (i n : Nat) :
    (draws.skip n).skip (i * n) = draws.skip ((i + 1) * n) := by
  rw [skip_skip, Nat.succ_mul, Nat.add_comm]

theorem Draws.skip_zero_mul (draws : Draws) (n : Nat) : draws.skip (0 * n) = draws :=
  funext fun i => congrArg draws (by rw [Nat.zero_mul, Nat.zero_add])

namespace RangeProofs

variable {P : Type}

/-- A claim is open: its value and its blinding factor are those of its commitment. -/
def Claim.Opens [PointGroup P] (claim : Claim P) (g : Generators P) : Prop :=
  claim.commitment.point =
    combine [(Scalar.ofNat claim.value.toNat, g.valueBase), (claim.blinding, g.blindingBase)]

variable [Suite P]

/-- What is relied on when the range prover is called for a claim at a place: for a value in range it
makes a proof about the commitment to the value, and the proof is accepted against that commitment. -/
def Reliable (g : Generators P) (capacity bits index : Nat) (claim : Claim P) (draws : Draws) : Prop :=
  let committed :=
    combine [(Scalar.ofNat claim.value.toNat, g.valueBase), (claim.blinding, g.blindingBase)]
  let transcript := Transcript.ofEntries (statement index claim.commitment)
  claim.value.toNat < 2 ^ bits → ∃ proof,
    Suite.proveRange g.valueBase g.blindingBase capacity transcript claim.value claim.blinding bits
      draws = .ok (proof, committed) ∧
    Suite.verifyRange g.valueBase g.blindingBase capacity transcript committed bits proof = .ok ()

/-- The same of all calls of a run over claims, from a place on. -/
def ReliableFrom (g : Generators P) (capacity bits index : Nat) (claims : List (Claim P))
    (draws : Draws) : Prop :=
  ∀ i claim, claims[i]? = some claim →
    Reliable g capacity bits (index + i) claim (draws.skip (i * RangeProof.drawCount))

/-- What a range prover documents of the size of its proofs: whatever it makes for a supported bit length
has a round for each halving of vectors of this length. -/
def Sized (P : Type) [Suite P] : Prop :=
  ∀ (valueBase blindingBase : P) (capacity : Nat) (t : Transcript) (value : UInt64) (blinding : Scalar)
    (bits : Nat) (draws : Draws) (proof : RangeProof) (committed : P), bits ∈ RangeProof.bitLengths →
    Suite.proveRange valueBase blindingBase capacity t value blinding bits draws =
      .ok (proof, committed) → proof.IsFor bits

variable {g : Generators P} {capacity bits index : Nat} {claim : Claim P} {claims : List (Claim P)}
  {draws : Draws}

theorem reliableFrom_cons : ReliableFrom g capacity bits index (claim :: claims) draws ↔
    Reliable g capacity bits index claim draws ∧
      ReliableFrom g capacity bits (index + 1) claims (draws.skip RangeProof.drawCount) := by
  have place (i : Nat) : index + 1 + i = index + (i + 1) := by omega
  constructor
  · intro reliable
    constructor
    · have first := reliable 0 claim rfl
      rwa [Draws.skip_zero_mul] at first
    · intro i other there
      rw [place, Draws.skip_mul]
      exact reliable (i + 1) other there
  · rintro ⟨first, rest⟩ i other there
    cases i with
    | zero =>
      cases there
      rwa [Draws.skip_zero_mul]
    | succ i =>
      rw [← place, ← Draws.skip_mul]
      exact rest i other there

/-! ## One claim -/

theorem proveAt_eq_ok_iff {proof : RangeProof} :
    proveAt g capacity bits index claim draws = .ok proof ↔ claim.value.toNat < 2 ^ bits ∧
      Suite.proveRange g.valueBase g.blindingBase capacity
        (Transcript.ofEntries (statement index claim.commitment)) claim.value claim.blinding bits
        draws = .ok (proof, claim.commitment.point) := by
  simp only [proveAt, Outcome.guard_bind_eq_ok_iff, Outcome.bind_eq_ok_iff,
    Outcome.mapError_eq_ok_iff, ne_eq, not_not, Prod.exists, Nat.not_le]
  refine and_congr_right fun _ => ?_
  constructor
  · rintro ⟨_, _, made, rfl, ⟨⟩⟩
    exact made
  · intro made
    exact ⟨_, _, made, rfl, rfl⟩

/-- A proof for a claim is made when the value is in range and the claim is open. -/
theorem Reliable.exists_proveAt_iff (reliable : Reliable g capacity bits index claim draws) :
    (∃ proof, proveAt g capacity bits index claim draws = .ok proof) ↔
      claim.value.toNat < 2 ^ bits ∧ claim.Opens g := by
  simp only [proveAt_eq_ok_iff, exists_and_left]
  refine and_congr_right fun inRange => ?_
  obtain ⟨proof, made, -⟩ := reliable inRange
  rw [made, Claim.Opens]
  constructor
  · rintro ⟨_, same⟩
    exact (congrArg Prod.snd (Except.ok.inj same)).symm
  · intro opens
    exact ⟨proof, by rw [opens]⟩

/-- A proof that was made for a claim is accepted against its commitment. -/
theorem Reliable.verifyRange_of_proveAt (reliable : Reliable g capacity bits index claim draws)
    {proof : RangeProof} (made : proveAt g capacity bits index claim draws = .ok proof) :
    Suite.verifyRange g.valueBase g.blindingBase capacity
      (Transcript.ofEntries (statement index claim.commitment)) claim.commitment.point bits proof =
        .ok () := by
  obtain ⟨inRange, made⟩ := proveAt_eq_ok_iff.mp made
  obtain ⟨_, same, accepted⟩ := reliable inRange
  obtain ⟨rfl, committed⟩ := Prod.mk.inj (Except.ok.inj (same.symm.trans made))
  rwa [committed] at accepted

/-! ## Runs -/

theorem proveFrom_cons_eq_ok_iff {proofs : List RangeProof} :
    proveFrom g capacity bits index (claim :: claims) draws = .ok proofs ↔
      ∃ proof rest, proveAt g capacity bits index claim draws = .ok proof ∧
        proveFrom g capacity bits (index + 1) claims (draws.skip RangeProof.drawCount) = .ok rest ∧
        proof :: rest = proofs := by
  simp only [proveFrom, Outcome.bind_eq_ok_iff, exists_and_left]
  exact exists_congr fun _ => and_congr_right fun _ => exists_congr fun _ =>
    and_congr_right fun _ => ⟨Except.ok.inj, congrArg _⟩

/-- A run goes through exactly when all values are in range and all claims are open. -/
theorem ReliableFrom.exists_proveFrom_iff
    (reliable : ReliableFrom g capacity bits index claims draws) :
    (∃ proofs, proveFrom g capacity bits index claims draws = .ok proofs) ↔
      ∀ claim ∈ claims, claim.value.toNat < 2 ^ bits ∧ claim.Opens g := by
  -- with each claim the place and the draws move on, and what is relied on with them
  induction claims generalizing index draws with
  | nil => exact ⟨fun _ => nofun, fun _ => ⟨[], rfl⟩⟩
  | cons claim claims ih =>
    obtain ⟨first, rest⟩ := reliableFrom_cons.mp reliable
    rw [List.forall_mem_cons, ← first.exists_proveAt_iff, ← ih rest]
    simp only [proveFrom_cons_eq_ok_iff]
    constructor
    · rintro ⟨_, proof, proofs, made, others, -⟩
      exact ⟨⟨proof, made⟩, proofs, others⟩
    · rintro ⟨⟨proof, made⟩, proofs, others⟩
      exact ⟨_, proof, proofs, made, others, rfl⟩

theorem length_of_proveFrom {proofs : List RangeProof}
    (made : proveFrom g capacity bits index claims draws = .ok proofs) :
    proofs.length = claims.length := by
  induction claims generalizing index draws proofs with
  | nil =>
    cases made
    rfl
  | cons claim claims ih =>
    obtain ⟨proof, rest, -, others, rfl⟩ := proveFrom_cons_eq_ok_iff.mp made
    rw [List.length_cons, List.length_cons, ih others]

/-- The proofs of a run have the size that their bit length gives. -/
theorem Sized.forall_isFor_of_proveFrom (sized : Sized P) (supported : bits ∈ RangeProof.bitLengths)
    {proofs : List RangeProof}
    (made : proveFrom g capacity bits index claims draws = .ok proofs) :
    ∀ proof ∈ proofs, proof.IsFor bits := by
  induction claims generalizing index draws proofs with
  | nil =>
    cases made
    exact nofun
  | cons claim claims ih =>
    obtain ⟨proof, rest, madeFirst, madeRest, rfl⟩ := proveFrom_cons_eq_ok_iff.mp made
    obtain ⟨-, first⟩ := proveAt_eq_ok_iff.mp madeFirst
    exact List.forall_mem_cons.mpr ⟨sized _ _ _ _ _ _ _ _ _ _ supported first, ih madeRest⟩

/-- The proofs of a run are accepted against the commitments of its claims. -/
theorem ReliableFrom.verifyFrom_of_proveFrom
    (reliable : ReliableFrom g capacity bits index claims draws) {proofs : List RangeProof}
    (made : proveFrom g capacity bits index claims draws = .ok proofs) :
    verifyFrom g capacity bits index proofs (claims.map Claim.commitment) = .ok () := by
  induction claims generalizing index draws proofs with
  | nil =>
    cases made
    rfl
  | cons claim claims ih =>
    obtain ⟨first, rest⟩ := reliableFrom_cons.mp reliable
    obtain ⟨proof, others, madeFirst, madeRest, rfl⟩ := proveFrom_cons_eq_ok_iff.mp made
    refine Outcome.check_bind_eq_ok_iff.mpr ⟨?_, ih rest madeRest⟩
    rw [Outcome.inContext_eq_ok_iff, Outcome.mapError_eq_ok_iff]
    exact first.verifyRange_of_proveAt madeFirst

theorem prove_eq_ok_iff {ranges : RangeProofs} :
    prove g capacity bits claims draws = .ok ranges ↔ bits ∈ RangeProof.bitLengths ∧
      proveFrom g capacity bits 0 claims draws = .ok ranges.proofs := by
  obtain ⟨proofs⟩ := ranges
  simp only [prove, Outcome.guard_bind_eq_ok_iff, Outcome.bind_eq_ok_iff, not_not]
  refine and_congr_right fun _ => ?_
  constructor
  · rintro ⟨_, made, ⟨⟩⟩
    exact made
  · intro made
    exact ⟨_, made, rfl⟩

theorem length_of_prove {ranges : RangeProofs}
    (made : prove g capacity bits claims draws = .ok ranges) :
    ranges.proofs.length = claims.length :=
  length_of_proveFrom (prove_eq_ok_iff.mp made).2

/-- What is made for claims is written in as many bytes as its number and the bit length give. -/
theorem Sized.length_encode_of_prove (sized : Sized P) {ranges : RangeProofs}
    (made : prove g capacity bits claims draws = .ok ranges) :
    (codec.encode ranges).length = size bits ranges.proofs.length := by
  obtain ⟨supported, made⟩ := prove_eq_ok_iff.mp made
  exact length_encode_of_isFor (sized.forall_isFor_of_proveFrom supported made)

/-- Range proofs of a supported length are made exactly when all values are in range and all claims are
open. -/
theorem ReliableFrom.exists_prove_iff (supported : bits ∈ RangeProof.bitLengths)
    (reliable : ReliableFrom g capacity bits 0 claims draws) :
    (∃ ranges, prove g capacity bits claims draws = .ok ranges) ↔
      ∀ claim ∈ claims, claim.value.toNat < 2 ^ bits ∧ claim.Opens g := by
  rw [← reliable.exists_proveFrom_iff]
  simp only [prove_eq_ok_iff, and_iff_right supported]
  exact ⟨fun ⟨ranges, made⟩ => ⟨ranges.proofs, made⟩, fun ⟨proofs, made⟩ => ⟨⟨proofs⟩, made⟩⟩

/-- Range proofs that were made verify against the commitments of the claims. -/
theorem ReliableFrom.verify_of_prove (reliable : ReliableFrom g capacity bits 0 claims draws)
    {ranges : RangeProofs} (made : prove g capacity bits claims draws = .ok ranges) :
    ranges.verify (claims.map Claim.commitment) g capacity bits = .ok () := by
  obtain ⟨-, made⟩ := prove_eq_ok_iff.mp made
  unfold verify
  rw [Outcome.guard_bind_eq_ok_iff, List.length_map, length_of_proveFrom made]
  exact ⟨fun differ => differ rfl, reliable.verifyFrom_of_proveFrom made⟩

end RangeProofs

/-! ## The range prover that programs run -/

namespace RangeProof

variable {P : Type} [PointGroup P]

/-- The inner product argument has as many rounds as it is told to have. -/
theorem length_argue (base : P) (rounds : Nat) (folding : Folding P) (t : Transcript) :
    (argue base rounds folding t).1.length = rounds := by
  induction rounds generalizing folding t with
  | zero => rfl
  | succ rounds ih => exact congrArg Nat.succ (ih _ _)

theorem log2_lt_of_supported {bits : Nat} (supported : bits ∈ bitLengths) : Nat.log2 bits < 32 := by
  have all : ∀ bits ∈ bitLengths, Nat.log2 bits < 32 := by decide
  exact all bits supported

/-- For a supported length the range prover makes a proof about the commitment to the value, with as many
rounds as the length asks for, unless a challenge of it is zero. -/
theorem prove_of_supported (bases : Bases P) {capacity bits : Nat} (t : Transcript) (value : Nat)
    (blinding : Scalar) (draws : Draws) (supported : bits ∈ bitLengths) (room : bits ≤ capacity) :
    prove bases capacity t value blinding bits draws = .error .zeroChallenge ∨
      ∃ proof, prove bases capacity t value blinding bits draws =
        .ok (proof, combine [(Scalar.ofNat value, bases.value), (blinding, bases.blinding)]) ∧
        proof.IsFor bits := by
  have sized : checkSize bits capacity = .ok () := by
    unfold checkSize
    rw [if_neg (not_not.mpr supported), if_neg (Nat.not_lt.mpr room)]
  unfold prove
  rw [sized]
  simp only [bind, Except.bind]
  split
  · exact .inl rfl
  · refine .inr ?_
    split
    · exact ⟨_, rfl, length_argue _ _ _ _⟩
    · next long =>
      rw [length_argue] at long
      exact absurd (log2_lt_of_supported supported) long

theorem isFor_of_prove {bases : Bases P} {capacity value bits : Nat} {t : Transcript} {blinding : Scalar}
    {draws : Draws} {proof : RangeProof} {committed : P} (supported : bits ∈ bitLengths)
    (made : prove bases capacity t value blinding bits draws = .ok (proof, committed)) :
    proof.IsFor bits := by
  by_cases room : bits ≤ capacity
  · obtain failed | ⟨other, given, isFor⟩ :=
      prove_of_supported bases t value blinding draws supported room
    · cases failed.symm.trans made
    · cases given.symm.trans made
      exact isFor
  · have sized : checkSize bits capacity = .error .generatorCount := by
      unfold checkSize
      rw [if_neg (not_not.mpr supported), if_pos (Nat.lt_of_not_le room)]
    unfold prove at made
    rw [sized] at made
    cases made

end RangeProof

/-- The proofs of the suite that programs run have the documented size. -/
theorem Curve.Ristretto.sized : RangeProofs.Sized Curve.Ristretto :=
  fun _ _ _ _ _ _ _ _ _ _ supported made => RangeProof.isFor_of_prove supported made

end ConfidentialToken
