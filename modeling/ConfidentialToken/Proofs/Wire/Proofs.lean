import ConfidentialToken.Proofs.Wire.Objects
import ConfidentialToken.ZeroKnowledge.Issue
import ConfidentialToken.ZeroKnowledge.Transfer

/-!
# Round trips of proofs

Range proofs have a byte form of their own, blocks without lengths; they and the proofs that are made
of them read back from what is written of them.
-/

namespace ConfidentialToken

/-! ## Range proofs -/

namespace RangeProof

theorem length_flatMap_bytes (blocks : List (Block 32)) :
    (blocks.flatMap Block.bytes).length = blocks.length * 32 := by
  induction blocks with
  | nil => rfl
  | cons block rest ih =>
    have length : block.bytes.length = 32 := block.property
    rw [List.flatMap_cons, List.length_append, ih, length, List.length_cons]
    omega

/-- Blocks are cut from the bytes that they make. -/
theorem blocks?_flatMap (blocks : List (Block 32)) :
    blocks? blocks.length (blocks.flatMap Block.bytes) = some blocks := by
  induction blocks with
  | nil => rfl
  | cons block rest ih =>
    have length : block.bytes.length = 32 := block.property
    have first : (block.bytes ++ rest.flatMap Block.bytes).take 32 = block.bytes :=
      List.take_left' length
    have others : (block.bytes ++ rest.flatMap Block.bytes).drop 32 = rest.flatMap Block.bytes :=
      List.drop_left' length
    have read : Block.ofBytes? 32 block.bytes = some block := dif_pos length
    simp only [List.length_cons, List.flatMap_cons, blocks?, first, others, read, ih]
    rfl

/-- Rounds are taken back from their blocks. -/
theorem rounds?_flatMap (rounds : List (Block 32 × Block 32)) (a b : Block 32) :
    rounds? (rounds.flatMap (fun (left, right) => [left, right]) ++ [a, b]) = some (rounds, a, b) := by
  induction rounds with
  | nil => rfl
  | cons round rest ih =>
    rw [List.flatMap_cons, List.append_assoc]
    cases h : rest.flatMap (fun (left, right) => [left, right]) ++ [a, b] with
    | nil => simp at h
    | cons block blocks =>
      rw [h] at ih
      show rounds? (round.1 :: round.2 :: block :: blocks) = _
      simp only [rounds?, ih]
      rfl

/-- An argument is taken back from its blocks. -/
theorem argument?_blocks (argument : InnerProductArgument) :
    argument? (argument.rounds.flatMap (fun (left, right) => [left, right]) ++
      [argument.a.toBlock, argument.b.toBlock]) = some argument := by
  unfold argument?
  rw [rounds?_flatMap]
  simp only [Option.bind_eq_bind, Option.bind_some, dif_pos argument.rounds_lt,
    Scalar.ofBlock?_toBlock]
  rfl

/-- A range proof is read back from its bytes. -/
theorem ofBytes?_toBytes (proof : RangeProof) : ofBytes? proof.toBytes = some proof := by
  have count : proof.toBytes.length / 32 = proof.blocks.length := by
    rw [toBytes, length_flatMap_bytes, Nat.mul_div_cancel _ (by decide)]
  have cut : blocks? proof.blocks.length proof.toBytes = some proof.blocks :=
    blocks?_flatMap proof.blocks
  unfold ofBytes?
  rw [count, cut]
  simp only [blocks, List.cons_append, List.nil_append, Option.bind_eq_bind, Option.bind_some,
    Scalar.ofBlock?_toBlock, argument?_blocks]
  rfl

theorem length_flatMap_pairs {α : Type} (pairs : List (α × α)) :
    (pairs.flatMap fun (left, right) => [left, right]).length = pairs.length * 2 := by
  induction pairs with
  | nil => rfl
  | cons pair rest ih =>
    rw [List.flatMap_cons, List.length_append, ih, List.length_cons]
    simp only [List.length_cons, List.length_nil]
    omega

/-- A proof has two blocks for each round, and nine others. -/
theorem length_toBytes (proof : RangeProof) :
    proof.toBytes.length = (proof.argument.rounds.length * 2 + 9) * 32 := by
  have blocks : proof.blocks.length = proof.argument.rounds.length * 2 + 9 := by
    simp only [RangeProof.blocks, List.length_append, length_flatMap_pairs, List.length_cons,
      List.length_nil]
    omega
  rw [toBytes, length_flatMap_bytes, blocks]

/-- A range proof has at most 71 blocks. -/
theorem length_toBytes_le (proof : RangeProof) : proof.toBytes.length ≤ 71 * 32 := by
  have rounds := proof.argument.rounds_lt
  rw [length_toBytes]
  omega

/-- So its length can be written. -/
theorem length_toBytes_lt (proof : RangeProof) : proof.toBytes.length < Wire.lengthBound :=
  Nat.lt_of_le_of_lt proof.length_toBytes_le (by decide)

end RangeProof

open Wire.Codec

theorem Wire.Codec.roundTrips_rangeProof (proof : RangeProof) : rangeProof.RoundTrips proof := by
  refine .refine ?_ (roundTrips_sized proof.length_toBytes_lt)
  simp only [RangeProof.ofBytes?_toBytes]

/-! ## Proofs of issues and transfers -/

/-- Whether the number of range proofs can be written. -/
def RangeProofs.Fits (ranges : RangeProofs) : Prop := ranges.proofs.length < Wire.lengthBound

theorem RangeProofs.roundTrips {ranges : RangeProofs} (fits : ranges.Fits) :
    RangeProofs.codec.RoundTrips ranges :=
  .via rfl (.list fits fun proof _ => roundTrips_rangeProof proof)

theorem ZeroValueProof.roundTrips (proof : ZeroValueProof) : ZeroValueProof.codec.RoundTrips proof :=
  .via rfl (.pair (roundTrips_scalar _) (roundTrips_scalar _))

section

variable {P : Type} [PointGroup P] [PointGroup.LawfulEncoding P]

theorem SameTypeProof.roundTrips (proof : SameTypeProof P) : SameTypeProof.codec.RoundTrips proof :=
  .via rfl (.pair (Commitment.roundTrips _)
    (.pair (roundTrips_scalar _) (.pair (roundTrips_scalar _) (roundTrips_scalar _))))

theorem IssueProof.roundTrips {proof : IssueProof P} (fits : proof.ranges.Fits) :
    IssueProof.codec.RoundTrips proof :=
  .via rfl (.pair (SameTypeProof.roundTrips _) (RangeProofs.roundTrips fits))

theorem TransferProof.roundTrips {proof : TransferProof P} (fits : proof.ranges.Fits) :
    TransferProof.codec.RoundTrips proof :=
  .via rfl (.pair (SameTypeProof.roundTrips _)
    (.pair (ZeroValueProof.roundTrips _) (RangeProofs.roundTrips fits)))

end

/-! ## Sizes -/

/-- A range proof is made for a bit length when its argument has a round for each halving of vectors of
this length. -/
def RangeProof.IsFor (bits : Nat) (proof : RangeProof) : Prop :=
  proof.argument.rounds.length = Nat.log2 bits

/-- How many bytes a range proof for a bit length is written in. -/
def RangeProof.size (bits : Nat) : Nat := 8 + (Nat.log2 bits * 2 + 9) * 32

/-- How many bytes range proofs for a bit length are written in. -/
def RangeProofs.size (bits count : Nat) : Nat := 8 + count * RangeProof.size bits

/-- How many bytes the proof of an issue is written in. -/
def IssueProof.size (bits outputs : Nat) : Nat := 128 + RangeProofs.size bits outputs

/-- How many bytes the proof of a transfer is written in. -/
def TransferProof.size (bits inputs outputs : Nat) : Nat :=
  192 + RangeProofs.size bits (inputs + outputs)

theorem Wire.Codec.length_encode_rangeProof (proof : RangeProof) :
    (rangeProof.encode proof).length = 8 + proof.toBytes.length :=
  length_encode_sized .shortOfText _

theorem RangeProof.IsFor.length_encode {bits : Nat} {proof : RangeProof} (isFor : proof.IsFor bits) :
    (rangeProof.encode proof).length = RangeProof.size bits := by
  rw [length_encode_rangeProof, RangeProof.length_toBytes, isFor, RangeProof.size]

/-- A range proof is written in some bytes, and not too many. -/
theorem Wire.Codec.length_encode_rangeProof_bounds (proof : RangeProof) :
    0 < (rangeProof.encode proof).length ∧ (rangeProof.encode proof).length ≤ 8 + 71 * 32 := by
  have blocks := proof.length_toBytes_le
  rw [length_encode_rangeProof]
  omega

/-- Range proofs are written in at least as many bytes as they are many, and not in too many. -/
theorem RangeProofs.length_encode (ranges : RangeProofs) :
    ranges.proofs.length ≤ (codec.encode ranges).length ∧
      (codec.encode ranges).length ≤ 8 + ranges.proofs.length * (8 + 71 * 32) := by
  obtain ⟨proofs⟩ := ranges
  refine ⟨length_le_length_encode_list
    (fun proof => (length_encode_rangeProof_bounds proof).1) proofs, ?_⟩
  have each : (proofs.flatMap rangeProof.encode).length ≤ proofs.length * (8 + 71 * 32) :=
    length_flatMap_le fun proof _ => (length_encode_rangeProof_bounds proof).2
  have written : (codec.encode ⟨proofs⟩).length = 8 + (proofs.flatMap rangeProof.encode).length :=
    Wire.Codec.length_encode_list _ _
  show _ ≤ 8 + proofs.length * (8 + 71 * 32)
  omega

/-- Range proofs for one bit length take as many bytes each. -/
theorem RangeProofs.length_encode_of_isFor {ranges : RangeProofs} {bits : Nat}
    (isFor : ∀ proof ∈ ranges.proofs, proof.IsFor bits) :
    (codec.encode ranges).length = size bits ranges.proofs.length := by
  obtain ⟨proofs⟩ := ranges
  have written : (codec.encode ⟨proofs⟩).length = 8 + (proofs.flatMap rangeProof.encode).length :=
    Wire.Codec.length_encode_list _ _
  have each : proofs.map (fun proof => (rangeProof.encode proof).length) =
      proofs.map fun _ => RangeProof.size bits :=
    List.map_congr_left fun proof mem => (isFor proof mem).length_encode
  rw [written, List.length_flatMap, each, List.map_const', List.sum_replicate_nat, size]

/-- The number of range proofs that are within the size limit can be written. -/
theorem RangeProofs.fits_of_length_le {ranges : RangeProofs}
    (short : (codec.encode ranges).length ≤ Wire.sizeLimit) : ranges.Fits :=
  lt_lengthBound (Nat.le_trans ranges.length_encode.1 short)

/-- The range proofs of so few tokens leave room for the rest of a proof within the size limit. -/
theorem RangeProofs.length_encode_of_few {ranges : RangeProofs}
    (few : ranges.proofs.length ≤ 16384) : 192 + (codec.encode ranges).length ≤ Wire.sizeLimit := by
  have long := ranges.length_encode.2
  have bound : 192 + (8 + 16384 * (8 + 71 * 32)) ≤ Wire.sizeLimit := by decide
  omega

section

variable {P : Type} [PointGroup P]

theorem SameTypeProof.length_encode (proof : SameTypeProof P) : (codec.encode proof).length = 128 := by
  have block (block : Block 32) : block.bytes.length = 32 := block.property
  show (Block.bytes _ ++ (Block.bytes _ ++ (Block.bytes _ ++ Block.bytes _))).length = _
  simp only [List.length_append, block]

theorem ZeroValueProof.length_encode (proof : ZeroValueProof) : (codec.encode proof).length = 64 := by
  have block (block : Block 32) : block.bytes.length = 32 := block.property
  show (Block.bytes _ ++ Block.bytes _).length = _
  simp only [List.length_append, block]

theorem IssueProof.length_encode (proof : IssueProof P) :
    (codec.encode proof).length = 128 + (RangeProofs.codec.encode proof.ranges).length := by
  show (SameTypeProof.codec.encode _ ++ RangeProofs.codec.encode _).length = _
  rw [List.length_append, SameTypeProof.length_encode]

theorem TransferProof.length_encode (proof : TransferProof P) :
    (codec.encode proof).length = 192 + (RangeProofs.codec.encode proof.ranges).length := by
  show (SameTypeProof.codec.encode _ ++ (ZeroValueProof.codec.encode _ ++
    RangeProofs.codec.encode _)).length = _
  rw [List.length_append, List.length_append, SameTypeProof.length_encode,
    ZeroValueProof.length_encode]
  exact (Nat.add_assoc 128 64 _).symm

end

end ConfidentialToken
