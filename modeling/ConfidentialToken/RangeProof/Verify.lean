import ConfidentialToken.RangeProof
import ConfidentialToken.RangeProof.Generators
import ConfidentialToken.Transcript

/-!
# Verifying range proofs

The verifier replays the transcript to recover the challenges and then checks two equations between
sums of multiples of points: that the committed polynomial takes the value the proof gives, and that
the inner product argument ends in the two scalars that the proof gives. A point of the proof that is
neutral, or whose bytes write no point, is refused.
-/

namespace ConfidentialToken.RangeProof

/-- The entry that opens a range proof of one value. -/
def opening (bits : Nat) (commitment : Block 32) : List Entry :=
  [Transcript.domain (Bytes.ofText "rangeproof v1"), .number "n" bits, .number "m" 1,
    .block "V" commitment]

/-- The entries that open the inner product argument. -/
def argumentOpening (length : Nat) : List Entry :=
  [Transcript.domain (Bytes.ofText "ipp v1"), .number "n" length]

/-- The entries of the evaluation at the challenge. -/
def evaluationEntries (evaluation evaluationBlinding vectorBlinding : Scalar) : List Entry :=
  [.scalar "t_x" evaluation, .scalar "t_x_blinding" evaluationBlinding,
    .scalar "e_blinding" vectorBlinding]

/-- Absorbs the bytes of a point that must not be neutral. -/
def absorbPoint (t : Transcript) (label : String) (b : Block 32) : Except Fault Transcript :=
  if b = Block.zero 32 then .error .notVerified else .ok (t.append (.block label b))

/-- The challenges of a proof. -/
structure Challenges where
  y : Scalar
  z : Scalar
  x : Scalar
  w : Scalar
  /-- One for each round of the argument. -/
  u : List Scalar

/-- Replays the rounds of the argument. -/
def roundChallenges : List (Block 32 × Block 32) → Transcript → Except Fault (List Scalar)
  | [], _ => .ok []
  | (left, right) :: rounds, t => do
    let t ← absorbPoint t "L" left
    let t ← absorbPoint t "R" right
    let (u, t) := t.challengeScalar "u"
    let us ← roundChallenges rounds t
    return u :: us

/-- Replays the transcript of a proof about a commitment. -/
def challenges (proof : RangeProof) (t : Transcript) (commitment : Block 32) (bits : Nat) :
    Except Fault Challenges := do
  let t := t.appendAll (opening bits commitment)
  let t ← absorbPoint t "A" proof.bits
  let t ← absorbPoint t "S" proof.masks
  let (y, t) := t.challengeScalar "y"
  let (z, t) := t.challengeScalar "z"
  let t ← absorbPoint t "T_1" proof.linear
  let t ← absorbPoint t "T_2" proof.quadratic
  let (x, t) := t.challengeScalar "x"
  let t := t.appendAll <|
    evaluationEntries proof.evaluation proof.evaluationBlinding proof.vectorBlinding
  let (w, t) := t.challengeScalar "w"
  if bits ≠ Nat.pow 2 proof.argument.rounds.length then throw .notVerified
  let u ← roundChallenges proof.argument.rounds (t.appendAll (argumentOpening bits))
  return ⟨y, z, x, w, u⟩

/-- What each generator is multiplied by once all rounds have folded the vectors: a product with
one factor a round, the challenge for the entries in the upper half and its inverse for those in the
lower half. -/
def foldedWeights : List Scalar → List Scalar
  | [] => [1]
  | u :: us =>
    let weights := foldedWeights us
    let inverse := u.inverse
    weights.map (inverse * ·) ++ weights.map (u * ·)

/-- The part of the constant coefficient that depends on the challenges alone. -/
def delta (bits : Nat) (y z : Scalar) : Scalar :=
  (z - z * z) * Scalar.sum (y.powers bits) - z * z * z * Scalar.ofNat (Nat.pow 2 bits - 1)

section

variable {P : Type} [PointGroup P]

/-- Reads a point of a proof. -/
def point? (b : Block 32) : Except Fault P :=
  match PointGroup.decode b with
  | some p => .ok p
  | none => .error .notVerified

/-- Reads the points of the rounds, with the squares of the challenges and of their inverses. -/
def roundTerms : List Scalar → List (Block 32 × Block 32) → Except Fault (List (Scalar × P))
  | u :: us, (left, right) :: rounds => do
    let left ← point? left
    let right ← point? right
    let terms ← roundTerms us rounds
    return (u * u, left) :: (u.inverse * u.inverse, right) :: terms
  | _, _ => .ok []

/-- The multiples whose sum is neutral exactly when the polynomial takes the given value. -/
def evaluationTerms (proof : RangeProof) (bases : Bases P) (c : Challenges) (bits : Nat)
    (commitment linear quadratic : P) : List (Scalar × P) :=
  [(c.z * c.z, commitment), (c.x, linear), (c.x * c.x, quadratic),
    (delta bits c.y c.z - proof.evaluation, bases.value),
    (-proof.evaluationBlinding, bases.blinding)]

/-- The multiples, apart from those of the rounds, whose sum is neutral exactly when the inner
product argument holds. -/
def argumentTerms (proof : RangeProof) (bases : Bases P) (c : Challenges) (bits : Nat)
    (bitsPoint masks : P) : List (Scalar × P) :=
  let arg := proof.argument
  let weights := foldedWeights c.u
  let left := weights.map fun s => -c.z - arg.a * s
  let right := List.zipWith (fun s (yInv, two) => c.z + yInv * (c.z * c.z * two - arg.b * s))
    weights.reverse ((c.y.inverse.powers bits).zip ((Scalar.ofNat 2).powers bits))
  [(1, bitsPoint), (c.x, masks), (-proof.vectorBlinding, bases.blinding),
    (c.w * (proof.evaluation - arg.a * arg.b), bases.value)] ++
  left.zip bases.left ++ right.zip bases.right

/-- Checks a proof that the value of `commitment` lies below `2 ^ bits`. -/
def verify (proof : RangeProof) (bases : Bases P) (capacity : Nat) (t : Transcript)
    (commitment : P) (bits : Nat) : Except Fault Unit := do
  checkSize bits capacity
  let c ← proof.challenges t (PointGroup.encode commitment) bits
  let bitsPoint ← point? proof.bits
  let masks ← point? proof.masks
  let linear ← point? proof.linear
  let quadratic ← point? proof.quadratic
  let rounds ← roundTerms c.u proof.argument.rounds
  let holds (terms : List (Scalar × P)) : Bool := PointGroup.combine terms = PointGroup.zero
  if holds (proof.evaluationTerms bases c bits commitment linear quadratic) ∧
      holds (proof.argumentTerms bases c bits bitsPoint masks ++ rounds) then
    return ()
  else throw .notVerified

end

end ConfidentialToken.RangeProof
