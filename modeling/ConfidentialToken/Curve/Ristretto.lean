import ConfidentialToken.Curve.Edwards
import ConfidentialToken.PointGroup

/-!
# The Ristretto group

The group of prime order that commitments live in: points of the Edwards curve, taken up to its
small subgroup and written by 32 canonical bytes. A `Ristretto` carries its bytes together with the
curve point they decode to, so equal bytes are equal points and comparing costs no arithmetic.
-/

namespace ConfidentialToken.Curve

namespace Ristretto

/-- The inverse root of minus one minus the curve's constant. -/
def inverseRootOfMinusOneMinusD : Coordinate :=
  54469307008909316920995813868745141605393597292927456921205312896311721017578

/-- A root of minus the curve's constant, minus one. -/
def rootOfMinusDMinusOne : Coordinate :=
  25063068953384623474111414158702152701244531502492656460079210482610430750235

/-- The bytes of the class of a curve point. -/
def encodePoint (p : Point) : Block 32 :=
  let u1 := (p.z + p.y) * (p.z - p.y)
  let u2 := p.x * p.y
  let inverseRoot := (Coordinate.rootOfRatio 1 (u1 * (u2 * u2))).2
  let den1 := inverseRoot * u1
  let den2 := inverseRoot * u2
  let inverseZ := den1 * den2 * p.t
  let rotate := (p.t * inverseZ).isNegative
  let x := if rotate then p.y * Coordinate.rootOfMinusOne else p.x
  let y := if rotate then p.x * Coordinate.rootOfMinusOne else p.y
  let inverse := if rotate then den1 * inverseRootOfMinusOneMinusD else den2
  let y := if (x * inverseZ).isNegative then -y else y
  (inverse * (p.z - y)).absolute.toBlock

/-- The curve point that stands for the class with the given bytes; `none` when the bytes are not
canonical or write no class. -/
def decodePoint (block : Block 32) : Option Point :=
  let s := Coordinate.ofBlock block
  let ss := s * s
  let u1 := 1 - ss
  let u2 := 1 + ss
  let u2u2 := u2 * u2
  let v := -(Point.d * (u1 * u1)) - u2u2
  let (isSquare, inverseRoot) := Coordinate.rootOfRatio 1 (v * u2u2)
  let denX := inverseRoot * u2
  let denY := inverseRoot * denX * v
  let x := ((s + s) * denX).absolute
  let y := u1 * denY
  let t := x * y
  if block.toNat < fieldPrime ∧ !s.isNegative ∧ isSquare ∧ !t.isNegative ∧ y ≠ 0 then
    some ⟨x, y, 1, t⟩
  else none

/-- The curve point that a coordinate is mapped to, one way. -/
def mapCoordinate (t : Coordinate) : Point :=
  let r := Coordinate.rootOfMinusOne * (t * t)
  let u := (r + 1) * (1 - Point.d * Point.d)
  let v := (-1 - r * Point.d) * (r + Point.d)
  let (isSquare, root) := Coordinate.rootOfRatio u v
  let s := if isSquare then root else -(root * t).absolute
  let c := if isSquare then -1 else r
  let n := c * (r - 1) * ((Point.d - 1) * (Point.d - 1)) - v
  let w0 := (s + s) * v
  let w1 := n * rootOfMinusDMinusOne
  let w2 := 1 - s * s
  let w3 := 1 + s * s
  ⟨w0 * w3, w2 * w1, w1 * w3, w0 * w2⟩

end Ristretto

/-- A point of the group, with its bytes. -/
structure Ristretto where
  block : Block 32
  point : Point
  decodes : Ristretto.decodePoint block = some point

namespace Ristretto

/-- Points with equal bytes are equal. -/
theorem eq_of_block_eq {p q : Ristretto} (h : p.block = q.block) : p = q := by
  obtain ⟨pb, pp, hp⟩ := p
  obtain ⟨qb, qp, hq⟩ := q
  obtain rfl : pb = qb := h
  obtain rfl : pp = qp := Option.some.inj (hp.symm.trans hq)
  rfl

instance : DecidableEq Ristretto := fun p q =>
  if h : p.block = q.block then isTrue (eq_of_block_eq h)
  else isFalse fun e => h (congrArg block e)

/-- The point with the given bytes, if there is one. -/
def ofBlock? (block : Block 32) : Option Ristretto :=
  match h : decodePoint block with
  | some point => some ⟨block, point, h⟩
  | none => none

/-- The neutral point is written by zero bytes. -/
theorem decodePoint_zero : decodePoint (Block.zero 32) = some Point.zero := by
  decide +kernel

/-- The neutral point. -/
def zero : Ristretto := ⟨Block.zero 32, Point.zero, decodePoint_zero⟩

/-- The class of a curve point. Its bytes always decode; the neutral point stands in the branch
that no point reaches. -/
def ofPoint (p : Point) : Ristretto := (ofBlock? (encodePoint p)).getD zero

/-- The sum of two points. -/
def add (p q : Ristretto) : Ristretto := ofPoint (p.point.add q.point)

/-- The opposite point. -/
def neg (p : Ristretto) : Ristretto := ofPoint p.point.neg

/-- The sum of the multiples in a list. -/
def combine (terms : List (Scalar × Ristretto)) : Ristretto :=
  ofPoint (Point.combine (terms.map fun (k, p) => (k, p.point)))

/-- The point that 64 uniform bytes are mapped to: each half is mapped, and the two are added. -/
def ofUniform (bytes : Bytes) : Ristretto :=
  let (low, high) := bytes.splitAt 32
  let coordinate (half : Bytes) := Coordinate.ofBlock (.ofNat 32 (Bytes.toNat half))
  ofPoint ((mapCoordinate (coordinate low)).add (mapCoordinate (coordinate high)))

/-- The bytes of a point read back as the point. -/
theorem ofBlock?_block (p : Ristretto) : ofBlock? p.block = some p := by
  unfold ofBlock?
  split
  · next point h => exact congrArg some (eq_of_block_eq rfl)
  · next h => exact absurd (p.decodes.symm.trans h) (by simp)

/-- The bytes that read as a point are the bytes of the point. -/
theorem block_of_ofBlock? {block : Block 32} {p : Ristretto} (h : ofBlock? block = some p) :
    p.block = block := by
  unfold ofBlock? at h
  split at h
  · exact (congrArg Ristretto.block (Option.some.inj h)).symm
  · cases h

end Ristretto

instance : PointGroup Ristretto where
  decEq := inferInstance
  zero := Ristretto.zero
  add := Ristretto.add
  neg := Ristretto.neg
  combine := Ristretto.combine
  encode := Ristretto.block
  decode := Ristretto.ofBlock?
  ofUniform := Ristretto.ofUniform

end ConfidentialToken.Curve
