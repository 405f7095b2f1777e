import ConfidentialToken.Commitment
import ConfidentialToken.Suite

/-!
# Proofs that values are in range

One range proof for each of a list of commitments over the value base and the blinding base. Every
proof is bound to its place in the list.
-/

namespace ConfidentialToken

/-- Range proofs, one for each commitment of a list. -/
structure RangeProofs where
  proofs : List RangeProof
deriving DecidableEq

namespace RangeProofs

/-- The byte form: a list of range proofs. -/
def codec : Wire.Codec RangeProofs := Wire.Codec.rangeProof.list.via (⟨·⟩) proofs

section

variable {P : Type} [PointGroup P]

/-- What a range proof starts from: its place and its commitment. -/
def statement (index : Nat) (commitment : Commitment P) : List Entry :=
  [Transcript.domain (Bytes.ofText "private_token.range"), .number "index" index,
    .point "V" commitment.point]

end

variable {P : Type} [Suite P]

/-- Checks proofs against commitments, from the place `index` on. -/
def verifyFrom (g : Generators P) (capacity bits : Nat) :
    (index : Nat) → List RangeProof → List (Commitment P) → Outcome Unit
  | index, proof :: proofs, commitment :: commitments => do
    let t := Transcript.ofEntries (statement index commitment)
    Outcome.inContext s!"invalid range proof at index [{index}]" <|
      (Suite.verifyRange g.valueBase g.blindingBase capacity t commitment.point bits
        proof).mapError Error.ofRangeProof
    verifyFrom g capacity bits (index + 1) proofs commitments
  | _, _, _ => .ok ()

/-- Checks range proofs against as many commitments. -/
def verify (ranges : RangeProofs) (commitments : List (Commitment P)) (g : Generators P)
    (capacity bits : Nat) : Outcome Unit := do
  if ranges.proofs.length ≠ commitments.length then
    throw <| .verification
      s!"expected {commitments.length} range proofs, got {ranges.proofs.length}"
  verifyFrom g capacity bits 0 ranges.proofs commitments

/-- A commitment together with the value and the blinding factor that open it. -/
structure Claim (P : Type) where
  commitment : Commitment P
  value : UInt64
  blinding : Scalar

/-- Proves that the value of a claim at a place is in range. -/
def proveAt (g : Generators P) (capacity bits index : Nat) (claim : Claim P) (draws : Draws) :
    Outcome RangeProof := do
  if Nat.pow 2 bits ≤ claim.value.toNat then
    throw <| .malformed s!"value at index [{index}] does not fit into {bits} bits"
  let t := Transcript.ofEntries (statement index claim.commitment)
  let (proof, committed) ← (Suite.proveRange g.valueBase g.blindingBase capacity t claim.value
    claim.blinding bits draws).mapError Error.ofRangeProof
  if committed ≠ claim.commitment.point then
    throw <| .malformed s!"witness at index [{index}] does not open its commitment"
  return proof

/-- Proves claims from the place `index` on. -/
def proveFrom (g : Generators P) (capacity bits : Nat) :
    (index : Nat) → List (Claim P) → Draws → Outcome (List RangeProof)
  | _, [], _ => .ok []
  | index, claim :: claims, draws => do
    let proof ← proveAt g capacity bits index claim draws
    let proofs ← proveFrom g capacity bits (index + 1) claims (draws.skip RangeProof.drawCount)
    return proof :: proofs

/-- Proves that every claimed value is below `2 ^ bits`. -/
def prove (g : Generators P) (capacity bits : Nat) (claims : List (Claim P)) (draws : Draws) :
    Outcome RangeProofs := do
  if bits ∉ RangeProof.bitLengths then throw <| .setup s!"unsupported bit length {bits}"
  return ⟨← proveFrom g capacity bits 0 claims draws⟩

/-- Pairs commitments, values and blinding factors, which must be equally many. -/
def claims (commitments : List (Commitment P)) (values : List UInt64) (blindings : List Scalar) :
    Outcome (List (Claim P)) :=
  if commitments.length = values.length ∧ commitments.length = blindings.length then
    .ok <| List.zipWith (fun c (v, b) => ⟨c, v, b⟩) commitments (values.zip blindings)
  else .error <| .malformed <|
    s!"range prover got {commitments.length} commitments, {values.length} values and " ++
      s!"{blindings.length} blinding factors"

end RangeProofs

end ConfidentialToken
