import ConfidentialToken.Draws
import ConfidentialToken.RangeProof.Verify

/-!
# Making range proofs

The prover writes the value in bits, commits to them and to masks of them, and answers the challenges
of the transcript. The inner product argument folds the two vectors and their generators in half
until one entry of each remains.
-/

namespace ConfidentialToken.RangeProof

variable {P : Type} [PointGroup P]

/-- The bits of a number as scalars, lowest first. -/
def bitsOf : (count : Nat) → Nat → List Scalar
  | 0, _ => []
  | count + 1, n => Scalar.ofNat (n % 2) :: bitsOf count (n / 2)

/-- What the inner product argument folds: two vectors, and the generator of each of their entries.
A generator is kept as a sum of multiples, so that folding multiplies scalars alone. -/
structure Folding (P : Type) where
  a : List Scalar
  b : List Scalar
  left : List (List (Scalar × P))
  right : List (List (Scalar × P))

/-- The multiple of a sum of multiples. -/
def scaleTerms (k : Scalar) (terms : List (Scalar × P)) : List (Scalar × P) :=
  terms.map fun (weight, g) => (k * weight, g)

/-- The sum of the multiples of generators. -/
def weighted (scalars : List Scalar) (generators : List (List (Scalar × P))) :
    List (Scalar × P) :=
  (List.zipWith scaleTerms scalars generators).flatten

/-- Folds generators in half, the lower half by one factor and the upper half by another. -/
def foldGenerators (lower upper : Scalar) (generators : List (List (Scalar × P))) (half : Nat) :
    List (List (Scalar × P)) :=
  let (low, high) := generators.splitAt half
  List.zipWith (fun l h => scaleTerms lower l ++ scaleTerms upper h) low high

/-- Folds a vector in half. -/
def foldVector (lower upper : Scalar) (vector : List Scalar) (half : Nat) : List Scalar :=
  let (low, high) := vector.splitAt half
  List.zipWith (fun l h => lower * l + upper * h) low high

/-- Argues that the two vectors have their inner product, over vectors of `2 ^ rounds` entries;
`base` carries the product. -/
def argue (base : P) :
    (rounds : Nat) → Folding P → Transcript → List (Block 32 × Block 32) × Scalar × Scalar
  | 0, f, _ => ([], f.a.headD 0, f.b.headD 0)
  | rounds + 1, f, t =>
    let half := Nat.pow 2 rounds
    let (aLow, aHigh) := f.a.splitAt half
    let (bLow, bHigh) := f.b.splitAt half
    let left := PointGroup.encode <| PointGroup.combine <|
      (Scalar.inner aLow bHigh, base) ::
        weighted aLow (f.left.drop half) ++ weighted bHigh (f.right.take half)
    let right := PointGroup.encode <| PointGroup.combine <|
      (Scalar.inner aHigh bLow, base) ::
        weighted aHigh (f.left.take half) ++ weighted bLow (f.right.drop half)
    let (u, t) := (t.appendAll [.block "L" left, .block "R" right]).challengeScalar "u"
    let folded : Folding P := {
      a := foldVector u u.inverse f.a half
      b := foldVector u.inverse u f.b half
      left := foldGenerators u.inverse u f.left half
      right := foldGenerators u u.inverse f.right half }
    let (more, last) := argue base rounds folded t
    ((left, right) :: more, last)

/-- Random scalars that one proof draws: four blinding factors and a mask for each vector entry. -/
def drawCount : Nat := 4 + 2 * maximalLength

/-- Proves that `value` lies below `2 ^ bits`; gives the proof and the commitment it is about. -/
def prove (bases : Bases P) (capacity : Nat) (t : Transcript) (value : Nat) (blinding : Scalar)
    (bits : Nat) (draws : Draws) : Except Fault (RangeProof × P) := do
  checkSize bits capacity
  let commitment := PointGroup.combine [(Scalar.ofNat value, bases.value), (blinding, bases.blinding)]
  let bitsBlinding := draws 0
  let masksBlinding := draws 1
  let linearBlinding := draws 2
  let quadraticBlinding := draws 3
  let leftMask := (draws.skip 4).take bits
  let rightMask := (draws.skip (4 + maximalLength)).take bits
  let leftBits := bitsOf bits value
  let rightBits := leftBits.map (· - 1)
  let bitsPoint := PointGroup.encode <| PointGroup.combine <|
    (bitsBlinding, bases.blinding) :: leftBits.zip bases.left ++ rightBits.zip bases.right
  let masks := PointGroup.encode <| PointGroup.combine <|
    (masksBlinding, bases.blinding) :: leftMask.zip bases.left ++ rightMask.zip bases.right
  let t := t.appendAll (opening bits (PointGroup.encode commitment))
  let t := t.appendAll [.block "A" bitsPoint, .block "S" masks]
  let (y, t) := t.challengeScalar "y"
  let (z, t) := t.challengeScalar "z"
  let ys := y.powers bits
  let left0 := leftBits.map (· - z)
  let right0 := List.zipWith (· + ·) (List.zipWith (fun y r => y * (r + z)) ys rightBits)
    (((Scalar.ofNat 2).powers bits).map (z * z * ·))
  let right1 := List.zipWith (· * ·) ys rightMask
  let t0 := Scalar.inner left0 right0
  let t2 := Scalar.inner leftMask right1
  let t1 := Scalar.inner (List.zipWith (· + ·) left0 leftMask)
    (List.zipWith (· + ·) right0 right1) - t0 - t2
  let linear := PointGroup.encode <|
    PointGroup.combine [(t1, bases.value), (linearBlinding, bases.blinding)]
  let quadratic := PointGroup.encode <|
    PointGroup.combine [(t2, bases.value), (quadraticBlinding, bases.blinding)]
  let t := t.appendAll [.block "T_1" linear, .block "T_2" quadratic]
  let (x, t) := t.challengeScalar "x"
  if x = 0 then throw .zeroChallenge
  let evaluation := t0 + t1 * x + t2 * x * x
  let evaluationBlinding := z * z * blinding + linearBlinding * x + quadraticBlinding * x * x
  let vectorBlinding := bitsBlinding + masksBlinding * x
  let (w, t) :=
    (t.appendAll (evaluationEntries evaluation evaluationBlinding vectorBlinding)).challengeScalar "w"
  let folding : Folding P := {
    a := List.zipWith (fun l m => l + m * x) left0 leftMask
    b := List.zipWith (fun r m => r + m * x) right0 right1
    left := (bases.left.take bits).map fun g => [(1, g)]
    right := List.zipWith (fun weight g => [(weight, g)]) (y.inverse.powers bits) bases.right }
  let (rounds, a, b) := argue (PointGroup.scale w bases.value) (Nat.log2 bits) folding
    (t.appendAll (argumentOpening bits))
  if h : rounds.length < 32 then
    return (⟨bitsPoint, masks, linear, quadratic, evaluation, evaluationBlinding, vectorBlinding,
      ⟨rounds, a, b, h⟩⟩, commitment)
  else throw .inputLength

end ConfidentialToken.RangeProof
