import ConfidentialToken.Proofs.Wire.Proofs
import ConfidentialToken.Proofs.ZeroKnowledge.Linearity

/-!
# Provers succeed on true statements

The provers of issues and transfers check some of a statement themselves and leave the rest to the range
prover, which commits to each value again and compares. Together they refuse exactly the false
statements, and what they return verifies. A range prover is relied on only for the calls of one run.

The byte form of a proof may be over the size limit. This is the one way in which a true statement goes
unproved. How long the form is can be said beforehand, from the bit length and the number of tokens, since
a range prover documents the size of its proofs; and whatever that size is, no statement about `16384`
tokens or fewer comes near the limit.
-/

namespace ConfidentialToken

open PointGroup (scale)
open PointGroup.Linear (combine_pair scale_eq)

/-! ## Writing proofs -/

/-- The error of a proof whose byte form is too long. -/
def overLimit : Error := .ofWire .sizeLimit

/-- What is written succeeds exactly when it is not too long. -/
theorem Wire.Codec.exists_write_iff {α : Type} {codec : Wire.Codec α} {value : α} :
    (∃ bytes, codec.write value = .ok bytes) ↔ (codec.encode value).length ≤ Wire.sizeLimit := by
  simp only [write_eq_ok_iff, exists_eq_left']

/-! ## Issues -/

section

variable {P : Type} [Suite P] {pp : PublicParameters P} {openings : List Opening}
  {tokens : List (Commitment P)} {draws : Draws} {tokenType : String} {bytes : Bytes}

namespace IssueProof

/-- The range prover is relied on in the calls of one run of the prover. -/
def RangesReliable (pp : PublicParameters P) (openings : List Opening)
    (tokens : List (Commitment P)) (draws : Draws) : Prop :=
  ∀ tokenType, commonType openings tokens = .ok tokenType →
    RangeProofs.ReliableFrom pp.generators pp.bitLength pp.bitLength 0
      (detype openings tokens (pp.generators.commitType tokenType (draws 0)) (draws 0))
      (draws.skip drawsBeforeRanges)

/-- A run of the prover: what it finds and what it makes before it writes the proof. -/
structure Run (pp : PublicParameters P) (openings : List Opening) (tokens : List (Commitment P))
    (draws : Draws) (tokenType : String) (ranges : RangeProofs) : Prop where
  type : commonType openings tokens = .ok tokenType
  ranges : RangeProofs.prove pp.generators pp.bitLength pp.bitLength
    (detype openings tokens (pp.generators.commitType tokenType (draws 0)) (draws 0))
    (draws.skip drawsBeforeRanges) = .ok ranges

/-- The proof that a run writes. -/
def ofRun (pp : PublicParameters P) (tokens : List (Commitment P)) (draws : Draws)
    (tokenType : String) (ranges : RangeProofs) : IssueProof P :=
  ⟨.prove pp.generators tokens tokenType (draws 0) (draws.skip 1), ranges⟩

theorem prove_eq_ok_iff : prove pp openings tokens draws = .ok bytes ↔
    ∃ tokenType ranges, Run pp openings tokens draws tokenType ranges ∧
      codec.write (ofRun pp tokens draws tokenType ranges) = .ok bytes := by
  simp only [prove, Outcome.bind_eq_ok_iff, Outcome.inContext_eq_ok_iff]
  constructor
  · rintro ⟨tokenType, type, ranges, made, written⟩
    exact ⟨tokenType, ranges, ⟨type, made⟩, written⟩
  · rintro ⟨tokenType, ranges, ⟨type, made⟩, written⟩
    exact ⟨tokenType, type, ranges, made, written⟩

/-- After a run the prover only writes. -/
theorem Run.prove_eq {ranges : RangeProofs} (run : Run pp openings tokens draws tokenType ranges) :
    prove pp openings tokens draws = codec.write (ofRun pp tokens draws tokenType ranges) := by
  refine (Outcome.bind_of_eq_ok run.type).trans ?_
  exact Outcome.bind_of_eq_ok (Outcome.inContext_eq_ok_iff.mpr run.ranges)

theorem Run.length_ranges {ranges : RangeProofs} (run : Run pp openings tokens draws tokenType ranges) :
    ranges.proofs.length = tokens.length := by
  obtain ⟨-, paired, -⟩ := commonType_eq_ok_iff.mp run.type
  rw [RangeProofs.length_of_prove run.ranges, length_detype paired]

/-- What a run writes is as long as its statement says. -/
theorem Run.length_encode {ranges : RangeProofs} (sized : RangeProofs.Sized P)
    (run : Run pp openings tokens draws tokenType ranges) :
    (codec.encode (ofRun pp tokens draws tokenType ranges)).length =
      size pp.bitLength tokens.length := by
  rw [IssueProof.length_encode, ofRun, sized.length_encode_of_prove run.ranges, run.length_ranges, size]

/-- A proof takes a constant number of bytes, and not too many for each token. -/
theorem length_le_of_prove (proved : prove pp openings tokens draws = .ok bytes) :
    bytes.length ≤ 136 + tokens.length * (8 + 71 * 32) := by
  obtain ⟨tokenType, ranges, run, written⟩ := prove_eq_ok_iff.mp proved
  obtain ⟨rfl, -⟩ := Wire.Codec.write_eq_ok_iff.mp written
  have long := ranges.length_encode.2
  rw [run.length_ranges] at long
  rw [length_encode]
  show 128 + (RangeProofs.codec.encode ranges).length ≤ _
  omega

variable [PointGroup.Linear P]

/-- Runs go through exactly when the openings are witnesses. -/
theorem exists_run_iff (supported : pp.bitLength ∈ RangeProof.bitLengths)
    (reliable : RangesReliable pp openings tokens draws) :
    (∃ ranges, Run pp openings tokens draws tokenType ranges) ↔
      Witnesses pp openings tokens tokenType := by
  constructor
  · rintro ⟨ranges, run⟩
    obtain ⟨some, paired, named, typed⟩ := commonType_eq_ok_iff.mp run.type
    have claims :=
      ((reliable tokenType run.type).exists_prove_iff supported).mp ⟨ranges, run.ranges⟩
    obtain ⟨inRange, opens⟩ := (forall_detype_iff paired typed (draws 0)).mp claims
    exact ⟨some, named, typed, inRange, opens⟩
  · intro witnesses
    have paired := witnesses.opens.length_eq
    have type : commonType openings tokens = .ok tokenType :=
      commonType_eq_ok_iff.mpr ⟨witnesses.some, paired, witnesses.named, witnesses.typed⟩
    have claims := (forall_detype_iff paired witnesses.typed (draws 0)).mpr
      ⟨witnesses.inRange, witnesses.opens⟩
    obtain ⟨ranges, made⟩ := ((reliable tokenType type).exists_prove_iff supported).mpr claims
    exact ⟨ranges, type, made⟩

/-- An issue is proved exactly when the openings are witnesses, and what a run writes is not too long. -/
theorem exists_prove_iff_of_run (supported : pp.bitLength ∈ RangeProof.bitLengths)
    (reliable : RangesReliable pp openings tokens draws) {short : Prop}
    (written : ∀ {tokenType ranges}, Run pp openings tokens draws tokenType ranges →
      ((codec.encode (ofRun pp tokens draws tokenType ranges)).length ≤ Wire.sizeLimit ↔ short)) :
    (∃ bytes, prove pp openings tokens draws = .ok bytes) ↔
      (∃ tokenType, Witnesses pp openings tokens tokenType) ∧ short := by
  constructor
  · rintro ⟨bytes, proved⟩
    obtain ⟨tokenType, ranges, run, wrote⟩ := prove_eq_ok_iff.mp proved
    exact ⟨⟨tokenType, (exists_run_iff supported reliable).mp ⟨ranges, run⟩⟩,
      (written run).mp (Wire.Codec.exists_write_iff.mp ⟨bytes, wrote⟩)⟩
  · rintro ⟨⟨tokenType, witnesses⟩, isShort⟩
    obtain ⟨ranges, run⟩ := (exists_run_iff supported reliable).mpr witnesses
    rw [run.prove_eq]
    exact Wire.Codec.exists_write_iff.mpr ((written run).mpr isShort)

/-- An issue is proved exactly when the openings are witnesses and the proof fits. -/
theorem exists_prove_iff (sized : RangeProofs.Sized P)
    (supported : pp.bitLength ∈ RangeProof.bitLengths)
    (reliable : RangesReliable pp openings tokens draws) :
    (∃ bytes, prove pp openings tokens draws = .ok bytes) ↔
      (∃ tokenType, Witnesses pp openings tokens tokenType) ∧
        size pp.bitLength tokens.length ≤ Wire.sizeLimit :=
  exists_prove_iff_of_run supported reliable fun run => by rw [run.length_encode sized]

/-- Of few tokens an issue is proved exactly when the openings are witnesses, whatever size range proofs
have. -/
theorem exists_prove_iff_of_few (few : tokens.length ≤ 16384)
    (supported : pp.bitLength ∈ RangeProof.bitLengths)
    (reliable : RangesReliable pp openings tokens draws) :
    (∃ bytes, prove pp openings tokens draws = .ok bytes) ↔
      ∃ tokenType, Witnesses pp openings tokens tokenType := by
  have short {tokenType : String} {ranges : RangeProofs}
      (run : Run pp openings tokens draws tokenType ranges) :
      (codec.encode (ofRun pp tokens draws tokenType ranges)).length ≤ Wire.sizeLimit := by
    have short := RangeProofs.length_encode_of_few (run.length_ranges.trans_le few)
    rw [length_encode]
    show 128 + (RangeProofs.codec.encode ranges).length ≤ Wire.sizeLimit
    omega
  rw [exists_prove_iff_of_run supported reliable fun run => iff_true_intro (short run), and_true]

/-- What witnesses do not get proved is too long. -/
theorem prove_eq_error_of_size (sized : RangeProofs.Sized P)
    (supported : pp.bitLength ∈ RangeProof.bitLengths)
    (reliable : RangesReliable pp openings tokens draws)
    (witnesses : Witnesses pp openings tokens tokenType)
    (long : Wire.sizeLimit < size pp.bitLength tokens.length) :
    prove pp openings tokens draws = .error overLimit := by
  obtain ⟨ranges, run⟩ := (exists_run_iff supported reliable).mpr witnesses
  rw [run.prove_eq]
  refine if_neg ?_
  rw [run.length_encode sized]
  exact Nat.not_le.mpr long

/-- A proof that was returned verifies, unless the type commitment is neutral. -/
theorem verify_of_prove [PointGroup.LawfulEncoding P]
    (supported : pp.bitLength ∈ RangeProof.bitLengths)
    (reliable : RangesReliable pp openings tokens draws)
    (proved : prove pp openings tokens draws = .ok bytes)
    (proper : ∀ tokenType, Witnesses pp openings tokens tokenType →
      (pp.generators.commitType tokenType (draws 0)).isIdentity = false) :
    verify pp tokens bytes = .ok () := by
  obtain ⟨tokenType, ranges, run, written⟩ := prove_eq_ok_iff.mp proved
  have witnesses := (exists_run_iff supported reliable).mp ⟨ranges, run⟩
  have paired := witnesses.opens.length_eq
  obtain ⟨rfl, short⟩ := Wire.Codec.write_eq_ok_iff.mp written
  have fits : ranges.Fits := by
    rw [length_encode] at short
    exact RangeProofs.fits_of_length_le (Nat.le_of_add_left_le short)
  -- the verifier takes the type commitment away from the tokens, which gives the claims' commitments
  have verified := (reliable tokenType run.type).verify_of_prove run.ranges
  rw [map_commitment_detype paired] at verified
  exact verify_eq_ok_iff.mpr ⟨witnesses.tokens_ne_nil, ofRun pp tokens draws tokenType ranges,
    (IssueProof.roundTrips fits).read_encode,
    SameTypeProof.verify_prove tokens _ (proper tokenType witnesses), verified⟩

end IssueProof

end

/-! ## Transfers -/

section

variable {P : Type} [Suite P] {pp : PublicParameters P} {inputOpenings outputOpenings : List Opening}
  {inputs outputs : List (Commitment P)} {draws : Draws} {tokenType : String} {bytes : Bytes}

namespace TransferProof

/-- What the range prover is asked to show in a run for tokens of a type: inputs first, then outputs. -/
def claims (pp : PublicParameters P) (inputOpenings : List Opening) (inputs : List (Commitment P))
    (outputOpenings : List Opening) (outputs : List (Commitment P)) (draws : Draws)
    (tokenType : String) : List (RangeProofs.Claim P) :=
  let typeCommitment := pp.generators.commitType tokenType (draws 0)
  detype inputOpenings inputs typeCommitment (draws 0) ++
    detype outputOpenings outputs typeCommitment (draws 0)

def RangesReliable (pp : PublicParameters P) (inputOpenings : List Opening)
    (inputs : List (Commitment P)) (outputOpenings : List Opening) (outputs : List (Commitment P))
    (draws : Draws) : Prop :=
  ∀ tokenType, commonType inputOpenings inputs = .ok tokenType →
    RangeProofs.ReliableFrom pp.generators pp.bitLength pp.bitLength 0
      (claims pp inputOpenings inputs outputOpenings outputs draws tokenType)
      (draws.skip drawsBeforeRanges)

/-- A run of the prover: also that the values balance, and the proof of it. -/
structure Run (pp : PublicParameters P) (inputOpenings : List Opening) (inputs : List (Commitment P))
    (outputOpenings : List Opening) (outputs : List (Commitment P)) (draws : Draws)
    (tokenType : String) (balance : ZeroValueProof) (ranges : RangeProofs) : Prop where
  inputType : commonType inputOpenings inputs = .ok tokenType
  outputType : commonType outputOpenings outputs = .ok tokenType
  balanced : Opening.total inputOpenings = Opening.total outputOpenings
  balance : ZeroValueProof.prove pp.generators
    (balanceCommitment inputs outputs (pp.generators.commitType tokenType (draws 0)))
    (Scalar.sum ((detype inputOpenings inputs (pp.generators.commitType tokenType (draws 0))
        (draws 0)).map (·.blinding)) -
      Scalar.sum ((detype outputOpenings outputs (pp.generators.commitType tokenType (draws 0))
        (draws 0)).map (·.blinding)))
    (balanceContext inputs outputs (pp.generators.commitType tokenType (draws 0)))
    (draws.skip (1 + SameTypeProof.drawCount)) = .ok balance
  ranges : RangeProofs.prove pp.generators pp.bitLength pp.bitLength
    (claims pp inputOpenings inputs outputOpenings outputs draws tokenType)
    (draws.skip drawsBeforeRanges) = .ok ranges

def ofRun (pp : PublicParameters P) (inputs outputs : List (Commitment P)) (draws : Draws)
    (tokenType : String) (balance : ZeroValueProof) (ranges : RangeProofs) : TransferProof P :=
  ⟨.prove pp.generators (inputs ++ outputs) tokenType (draws 0) (draws.skip 1), balance, ranges⟩

theorem prove_eq_ok_iff :
    prove pp inputOpenings inputs outputOpenings outputs draws = .ok bytes ↔
      ∃ tokenType balance ranges, Run pp inputOpenings inputs outputOpenings outputs draws tokenType
        balance ranges ∧
        codec.write (ofRun pp inputs outputs draws tokenType balance ranges) = .ok bytes := by
  simp only [prove, Outcome.bind_eq_ok_iff, Outcome.inContext_eq_ok_iff,
    Outcome.guard_bind_eq_ok_iff, ne_eq, not_not]
  constructor
  · rintro ⟨tokenType, inputType, _, outputType, rfl, balanced, balance, isBalance, ranges, isRanges,
      written⟩
    exact ⟨tokenType, balance, ranges, ⟨inputType, outputType, balanced, isBalance, isRanges⟩, written⟩
  · rintro ⟨tokenType, balance, ranges, ⟨inputType, outputType, balanced, isBalance, isRanges⟩,
      written⟩
    exact ⟨tokenType, inputType, _, outputType, rfl, balanced, balance, isBalance, ranges, isRanges,
      written⟩

section

variable {balance : ZeroValueProof} {ranges : RangeProofs}

theorem Run.prove_eq
    (run : Run pp inputOpenings inputs outputOpenings outputs draws tokenType balance ranges) :
    prove pp inputOpenings inputs outputOpenings outputs draws =
      codec.write (ofRun pp inputs outputs draws tokenType balance ranges) := by
  refine (Outcome.bind_of_eq_ok (Outcome.inContext_eq_ok_iff.mpr run.inputType)).trans ?_
  refine (Outcome.bind_of_eq_ok (Outcome.inContext_eq_ok_iff.mpr run.outputType)).trans ?_
  refine (if_neg (not_not.mpr rfl)).trans ((if_neg (not_not.mpr run.balanced)).trans ?_)
  refine (Outcome.bind_of_eq_ok (Outcome.inContext_eq_ok_iff.mpr run.balance)).trans ?_
  exact Outcome.bind_of_eq_ok (Outcome.inContext_eq_ok_iff.mpr run.ranges)

theorem Run.length_ranges
    (run : Run pp inputOpenings inputs outputOpenings outputs draws tokenType balance ranges) :
    ranges.proofs.length = inputs.length + outputs.length := by
  obtain ⟨-, pairedInputs, -⟩ := commonType_eq_ok_iff.mp run.inputType
  obtain ⟨-, pairedOutputs, -⟩ := commonType_eq_ok_iff.mp run.outputType
  rw [RangeProofs.length_of_prove run.ranges, claims, List.length_append,
    length_detype pairedInputs, length_detype pairedOutputs]

/-- What a run writes is as long as its statement says. -/
theorem Run.length_encode (sized : RangeProofs.Sized P)
    (run : Run pp inputOpenings inputs outputOpenings outputs draws tokenType balance ranges) :
    (codec.encode (ofRun pp inputs outputs draws tokenType balance ranges)).length =
      size pp.bitLength inputs.length outputs.length := by
  rw [TransferProof.length_encode, ofRun, sized.length_encode_of_prove run.ranges, run.length_ranges,
    size]

theorem length_le_of_prove
    (proved : prove pp inputOpenings inputs outputOpenings outputs draws = .ok bytes) :
    bytes.length ≤ 200 + (inputs.length + outputs.length) * (8 + 71 * 32) := by
  obtain ⟨tokenType, balance, ranges, run, written⟩ := prove_eq_ok_iff.mp proved
  obtain ⟨rfl, -⟩ := Wire.Codec.write_eq_ok_iff.mp written
  have long := ranges.length_encode.2
  rw [run.length_ranges] at long
  rw [length_encode]
  show 192 + (RangeProofs.codec.encode ranges).length ≤ _
  omega

variable [PointGroup.Linear P]

/-- When the values balance, what is left of the blindings is the blinding of the balance commitment. -/
theorem scale_balanceBlinding (spent : Witnesses pp inputOpenings inputs tokenType)
    (gained : Witnesses pp outputOpenings outputs tokenType)
    (balanced : Opening.total inputOpenings = Opening.total outputOpenings) (typeBlinding : Scalar) :
    scale (Scalar.sum ((detype inputOpenings inputs (pp.generators.commitType tokenType typeBlinding)
          typeBlinding).map (·.blinding)) -
        Scalar.sum ((detype outputOpenings outputs (pp.generators.commitType tokenType typeBlinding)
          typeBlinding).map (·.blinding))) pp.generators.blindingBase =
      (balanceCommitment inputs outputs (pp.generators.commitType tokenType typeBlinding)).point := by
  rw [sum_blinding_detype spent.opens.length_eq, sum_blinding_detype gained.opens.length_eq,
    point_balanceCommitment_of_opens spent.typed spent.opens gained.typed gained.opens, balanced,
    sub_self, combine_pair, map_zero, zero_add, scale_eq]

/-- Runs go through exactly when the openings are witnesses and the values balance. -/
theorem exists_run_iff (supported : pp.bitLength ∈ RangeProof.bitLengths)
    (reliable : RangesReliable pp inputOpenings inputs outputOpenings outputs draws) :
    (∃ balance ranges,
      Run pp inputOpenings inputs outputOpenings outputs draws tokenType balance ranges) ↔
      Witnesses pp inputOpenings inputs tokenType ∧ Witnesses pp outputOpenings outputs tokenType ∧
        Opening.total inputOpenings = Opening.total outputOpenings := by
  constructor
  · rintro ⟨balance, ranges, run⟩
    obtain ⟨someInputs, pairedInputs, named, typedInputs⟩ := commonType_eq_ok_iff.mp run.inputType
    obtain ⟨someOutputs, pairedOutputs, -, typedOutputs⟩ := commonType_eq_ok_iff.mp run.outputType
    have claims :=
      ((reliable tokenType run.inputType).exists_prove_iff supported).mp ⟨ranges, run.ranges⟩
    obtain ⟨spent, gained⟩ := List.forall_mem_append.mp claims
    obtain ⟨inRangeInputs, opensInputs⟩ :=
      (forall_detype_iff pairedInputs typedInputs (draws 0)).mp spent
    obtain ⟨inRangeOutputs, opensOutputs⟩ :=
      (forall_detype_iff pairedOutputs typedOutputs (draws 0)).mp gained
    exact ⟨⟨someInputs, named, typedInputs, inRangeInputs, opensInputs⟩,
      ⟨someOutputs, named, typedOutputs, inRangeOutputs, opensOutputs⟩, run.balanced⟩
  · rintro ⟨spent, gained, balanced⟩
    have pairedInputs := spent.opens.length_eq
    have pairedOutputs := gained.opens.length_eq
    have inputType : commonType inputOpenings inputs = .ok tokenType :=
      commonType_eq_ok_iff.mpr ⟨spent.some, pairedInputs, spent.named, spent.typed⟩
    have outputType : commonType outputOpenings outputs = .ok tokenType :=
      commonType_eq_ok_iff.mpr ⟨gained.some, pairedOutputs, gained.named, gained.typed⟩
    have claims := List.forall_mem_append.mpr
      ⟨(forall_detype_iff pairedInputs spent.typed (draws 0)).mpr ⟨spent.inRange, spent.opens⟩,
        (forall_detype_iff pairedOutputs gained.typed (draws 0)).mpr ⟨gained.inRange, gained.opens⟩⟩
    obtain ⟨ranges, made⟩ := ((reliable tokenType inputType).exists_prove_iff supported).mpr claims
    exact ⟨_, ranges, inputType, outputType, balanced,
      if_neg (not_not.mpr (scale_balanceBlinding spent gained balanced (draws 0))), made⟩

/-- A transfer is proved exactly when the openings are witnesses for inputs and outputs of one type, the
values balance, and what a run writes is not too long. -/
theorem exists_prove_iff_of_run (supported : pp.bitLength ∈ RangeProof.bitLengths)
    (reliable : RangesReliable pp inputOpenings inputs outputOpenings outputs draws) {short : Prop}
    (written : ∀ {tokenType balance ranges},
      Run pp inputOpenings inputs outputOpenings outputs draws tokenType balance ranges →
      ((codec.encode (ofRun pp inputs outputs draws tokenType balance ranges)).length ≤
        Wire.sizeLimit ↔ short)) :
    (∃ bytes, prove pp inputOpenings inputs outputOpenings outputs draws = .ok bytes) ↔
      (∃ tokenType, Witnesses pp inputOpenings inputs tokenType ∧
        Witnesses pp outputOpenings outputs tokenType ∧
        Opening.total inputOpenings = Opening.total outputOpenings) ∧ short := by
  constructor
  · rintro ⟨bytes, proved⟩
    obtain ⟨tokenType, balance, ranges, run, wrote⟩ := prove_eq_ok_iff.mp proved
    exact ⟨⟨tokenType, (exists_run_iff supported reliable).mp ⟨balance, ranges, run⟩⟩,
      (written run).mp (Wire.Codec.exists_write_iff.mp ⟨bytes, wrote⟩)⟩
  · rintro ⟨⟨tokenType, statement⟩, isShort⟩
    obtain ⟨balance, ranges, run⟩ := (exists_run_iff supported reliable).mpr statement
    rw [run.prove_eq]
    exact Wire.Codec.exists_write_iff.mpr ((written run).mpr isShort)

/-- A transfer is proved exactly when the openings are witnesses for inputs and outputs of one type, the
values balance, and the proof fits. -/
theorem exists_prove_iff (sized : RangeProofs.Sized P)
    (supported : pp.bitLength ∈ RangeProof.bitLengths)
    (reliable : RangesReliable pp inputOpenings inputs outputOpenings outputs draws) :
    (∃ bytes, prove pp inputOpenings inputs outputOpenings outputs draws = .ok bytes) ↔
      (∃ tokenType, Witnesses pp inputOpenings inputs tokenType ∧
        Witnesses pp outputOpenings outputs tokenType ∧
        Opening.total inputOpenings = Opening.total outputOpenings) ∧
      size pp.bitLength inputs.length outputs.length ≤ Wire.sizeLimit :=
  exists_prove_iff_of_run supported reliable fun run => by rw [run.length_encode sized]

/-- Of few tokens a transfer is proved exactly when the openings are witnesses and the values balance,
whatever size range proofs have. -/
theorem exists_prove_iff_of_few (few : inputs.length + outputs.length ≤ 16384)
    (supported : pp.bitLength ∈ RangeProof.bitLengths)
    (reliable : RangesReliable pp inputOpenings inputs outputOpenings outputs draws) :
    (∃ bytes, prove pp inputOpenings inputs outputOpenings outputs draws = .ok bytes) ↔
      ∃ tokenType, Witnesses pp inputOpenings inputs tokenType ∧
        Witnesses pp outputOpenings outputs tokenType ∧
        Opening.total inputOpenings = Opening.total outputOpenings := by
  have short {tokenType : String} {balance : ZeroValueProof} {ranges : RangeProofs}
      (run : Run pp inputOpenings inputs outputOpenings outputs draws tokenType balance ranges) :
      (codec.encode (ofRun pp inputs outputs draws tokenType balance ranges)).length ≤
        Wire.sizeLimit := by
    have short := RangeProofs.length_encode_of_few (run.length_ranges.trans_le few)
    rwa [length_encode]
  rw [exists_prove_iff_of_run supported reliable fun run => iff_true_intro (short run), and_true]

/-- A proof that was returned verifies, unless the type commitment is neutral. -/
theorem verify_of_prove [PointGroup.LawfulEncoding P]
    (supported : pp.bitLength ∈ RangeProof.bitLengths)
    (reliable : RangesReliable pp inputOpenings inputs outputOpenings outputs draws)
    (proved : prove pp inputOpenings inputs outputOpenings outputs draws = .ok bytes)
    (proper : ∀ tokenType, Witnesses pp inputOpenings inputs tokenType →
      (pp.generators.commitType tokenType (draws 0)).isIdentity = false) :
    verify pp inputs outputs bytes = .ok () := by
  obtain ⟨tokenType, balance, ranges, run, written⟩ := prove_eq_ok_iff.mp proved
  obtain ⟨spent, gained, -⟩ := (exists_run_iff supported reliable).mp ⟨balance, ranges, run⟩
  obtain ⟨rfl, short⟩ := Wire.Codec.write_eq_ok_iff.mp written
  have fits : ranges.Fits := by
    rw [length_encode] at short
    exact RangeProofs.fits_of_length_le (Nat.le_of_add_left_le short)
  have verified := (reliable tokenType run.inputType).verify_of_prove run.ranges
  rw [claims, List.map_append, map_commitment_detype spent.opens.length_eq,
    map_commitment_detype gained.opens.length_eq, ← List.map_append] at verified
  exact verify_eq_ok_iff.mpr ⟨⟨spent.tokens_ne_nil, gained.tokens_ne_nil⟩,
    ofRun pp inputs outputs draws tokenType balance ranges,
    (TransferProof.roundTrips fits).read_encode,
    SameTypeProof.verify_prove _ _ (proper tokenType spent),
    ZeroValueProof.verify_of_prove run.balance, verified⟩

end

end TransferProof

end

/-! ## Both provers -/

/-- With parameters that were made, an issue is proved exactly when the openings are witnesses for the
tokens, and a transfer exactly when they are for inputs and outputs, with one type and equal sums, and the
number of tokens is such that the proof fits. Values are in range up to the greatest value. What is
returned verifies unless the type commitment that was drawn is neutral. -/
theorem PublicParameters.Made.prove_iff_witnesses {P : Type} [Suite P] [PointGroup.Linear P]
    [PointGroup.LawfulEncoding P] {pp : PublicParameters P} (made : pp.Made)
    (sized : RangeProofs.Sized P) :
    (∀ value : UInt64, value.toNat < 2 ^ pp.bitLength ↔ value ≤ pp.maxValue) ∧
    (∀ (openings : List Opening) (tokens : List (Commitment P)) (draws : Draws),
      IssueProof.RangesReliable pp openings tokens draws →
      ((∃ bytes, IssueProof.prove pp openings tokens draws = .ok bytes) ↔
        (∃ tokenType, Witnesses pp openings tokens tokenType) ∧
        IssueProof.size pp.bitLength tokens.length ≤ Wire.sizeLimit) ∧
      ∀ bytes, IssueProof.prove pp openings tokens draws = .ok bytes →
        (∀ tokenType, Witnesses pp openings tokens tokenType →
          (pp.generators.commitType tokenType (draws 0)).isIdentity = false) →
        IssueProof.verify pp tokens bytes = .ok ()) ∧
    (∀ (inputOpenings : List Opening) (inputs : List (Commitment P))
      (outputOpenings : List Opening) (outputs : List (Commitment P)) (draws : Draws),
      TransferProof.RangesReliable pp inputOpenings inputs outputOpenings outputs draws →
      ((∃ bytes,
          TransferProof.prove pp inputOpenings inputs outputOpenings outputs draws = .ok bytes) ↔
        (∃ tokenType, Witnesses pp inputOpenings inputs tokenType ∧
          Witnesses pp outputOpenings outputs tokenType ∧
          (inputOpenings.map fun opening => opening.value.toNat).sum =
            (outputOpenings.map fun opening => opening.value.toNat).sum) ∧
        TransferProof.size pp.bitLength inputs.length outputs.length ≤ Wire.sizeLimit) ∧
      ∀ bytes, TransferProof.prove pp inputOpenings inputs outputOpenings outputs draws = .ok bytes →
        (∀ tokenType, Witnesses pp inputOpenings inputs tokenType →
          (pp.generators.commitType tokenType (draws 0)).isIdentity = false) →
        TransferProof.verify pp inputs outputs bytes = .ok ()) := by
  have supported := made.bitLength_mem
  refine ⟨made.lt_iff_le_maxValue, ?issues, ?transfers⟩
  case issues =>
    intro openings tokens draws reliable
    refine ⟨IssueProof.exists_prove_iff sized supported reliable, ?_⟩
    exact fun bytes => IssueProof.verify_of_prove supported reliable
  case transfers =>
    intro inputOpenings inputs outputOpenings outputs draws reliable
    rw [← Opening.total_eq, ← Opening.total_eq]
    refine ⟨TransferProof.exists_prove_iff sized supported reliable, ?_⟩
    exact fun bytes => TransferProof.verify_of_prove supported reliable

namespace Plain

/-- The range prover of the plain suite can be relied on in every call. -/
theorem reliable (g : Generators Plain) (capacity bits index : Nat) (claim : RangeProofs.Claim Plain)
    (draws : Draws) : RangeProofs.Reliable g capacity bits index claim draws :=
  fun _ => ⟨rangeProof (Nat.log2 bits), rfl, rfl⟩

/-- Its proofs have the documented size. -/
theorem sized : RangeProofs.Sized Plain := by
  intro _ _ _ _ _ _ bits _ _ _ supported made
  cases made
  exact List.length_replicate.trans (Nat.mod_eq_of_lt (RangeProof.log2_lt_of_supported supported))

/-- The provers at work: a token of value 5 is issued and split into tokens of the values 2 and 3. It is
not split into two tokens of value 2. -/
theorem split_proved :
    let draws : Draws := fun _ => typeBlinding "EUR"
    let tokens (openings : List Opening) := openings.map (·.commitment generators)
    let whole : List Opening := [⟨"EUR", 5, 4⟩]
    let parts : List Opening := [⟨"EUR", 2, 2⟩, ⟨"EUR", 3, 3⟩]
    let less : List Opening := [⟨"EUR", 2, 2⟩, ⟨"EUR", 2, 3⟩]
    (∃ bytes, IssueProof.prove parameters whole (tokens whole) draws = .ok bytes ∧
      IssueProof.verify parameters (tokens whole) bytes = .ok ()) ∧
    (∃ bytes, TransferProof.prove parameters whole (tokens whole) parts (tokens parts) draws =
        .ok bytes ∧
      TransferProof.verify parameters (tokens whole) (tokens parts) bytes = .ok ()) ∧
    ∀ bytes, TransferProof.prove parameters whole (tokens whole) less (tokens less) draws ≠
      .ok bytes := by
  intro draws tokens whole parts less
  obtain ⟨-, issues, transfers⟩ := made_parameters.prove_iff_witnesses sized
  have witnessesWhole : Witnesses parameters whole (tokens whole) "EUR" :=
    .of_commitment nofun (by decide) (by decide) (by decide)
  have witnessesParts : Witnesses parameters parts (tokens parts) "EUR" :=
    .of_commitment nofun (by decide) (by decide) (by decide)
  have proper : ∀ tokenType, Witnesses parameters whole (tokens whole) tokenType →
      (generators.commitType tokenType (draws 0)).isIdentity = false := by
    intro tokenType witnesses
    obtain rfl := witnesses.typed _ List.mem_cons_self
    exact commitType_typeBlinding "EUR"
  refine ⟨?issue, ?transfer, ?refused⟩
  case issue =>
    obtain ⟨proved, verified⟩ := issues whole (tokens whole) draws
      fun _ _ _ _ _ => reliable _ _ _ _ _ _
    obtain ⟨bytes, made⟩ := proved.mpr ⟨⟨"EUR", witnessesWhole⟩, by decide⟩
    exact ⟨bytes, made, verified bytes made proper⟩
  case transfer =>
    obtain ⟨proved, verified⟩ := transfers whole (tokens whole) parts (tokens parts) draws
      fun _ _ _ _ _ => reliable _ _ _ _ _ _
    obtain ⟨bytes, made⟩ := proved.mpr ⟨⟨"EUR", witnessesWhole, witnessesParts, by decide⟩,
      by decide⟩
    exact ⟨bytes, made, verified bytes made proper⟩
  case refused =>
    intro bytes made
    obtain ⟨proved, -⟩ := transfers whole (tokens whole) less (tokens less) draws
      fun _ _ _ _ _ => reliable _ _ _ _ _ _
    obtain ⟨⟨_, _, _, balanced⟩, -⟩ := proved.mp ⟨bytes, made⟩
    exact absurd balanced (by decide)

/-- An issue of 98690 tokens of 64 bits is not proved, whatever is drawn, though the openings are witnesses
for the tokens. -/
theorem manyTokens_unproved :
    let openings : List Opening := List.replicate 98690 ⟨"EUR", 5, 4⟩
    let tokens := openings.map (·.commitment generators)
    parameters.Made ∧ Witnesses parameters openings tokens "EUR" ∧
    ∀ draws, IssueProof.RangesReliable parameters openings tokens draws ∧
      IssueProof.prove parameters openings tokens draws = .error overLimit := by
  intro openings tokens
  have each : ∀ opening ∈ openings, opening = ⟨"EUR", 5, 4⟩ := fun _ => List.eq_of_mem_replicate
  have witnesses : Witnesses parameters openings tokens "EUR" := by
    refine .of_commitment (List.cons_ne_nil _ _) (by decide) ?_ ?_
    · intro opening mem
      rw [each opening mem]
    · intro opening mem
      rw [each opening mem]
      decide
  have count : tokens.length = 98690 := by rw [List.length_map, List.length_replicate]
  refine ⟨made_parameters, witnesses, fun draws => ?_⟩
  have relied : IssueProof.RangesReliable parameters openings tokens draws :=
    fun _ _ _ _ _ => reliable _ _ _ _ _ _
  refine ⟨relied, IssueProof.prove_eq_error_of_size sized made_parameters.bitLength_mem relied
    witnesses ?_⟩
  rw [count]
  decide

end Plain

end ConfidentialToken
