import ConfidentialToken.Curve.Field
import ConfidentialToken.Scalar

/-!
# The Edwards curve

Points of the twisted Edwards curve `y ^ 2 - x ^ 2 = 1 + d * x ^ 2 * y ^ 2` in extended
coordinates: `x / z` and `y / z` are the affine coordinates and `t = x * y / z`. The point
formulas are complete, so no case is set apart. Sums of many multiples are formed together
(`combine`), which is what makes checking proofs affordable.
-/

namespace ConfidentialToken.Curve

/-- A curve point in extended coordinates. -/
structure Point where
  x : Coordinate
  y : Coordinate
  z : Coordinate
  t : Coordinate
deriving DecidableEq

namespace Point

/-- The constant of the curve. -/
def d : Coordinate :=
  37095705934669439343138083508754565189542113879843219016388785533085940283555

/-- The neutral point. -/
def zero : Point := ⟨0, 1, 1, 0⟩

instance : Inhabited Point := ⟨zero⟩

/-- The base point of signatures. -/
def base : Point :=
  let x : Coordinate := 15112221349535400772501151409588531511454012693041857206046113283949847762202
  let y : Coordinate := 46316835694926478169428394003475163141307993866256225615783033603165251855960
  ⟨x, y, 1, x * y⟩

/-- The opposite point. -/
def neg (p : Point) : Point := ⟨-p.x, p.y, p.z, -p.t⟩

/-- A summand prepared for addition: `y + x`, `y - x`, `2 * z` and `2 * d * t`. -/
structure Summand where
  plus : Coordinate
  minus : Coordinate
  twoZ : Coordinate
  twoDT : Coordinate

/-- Prepares a point for addition. -/
def toSummand (p : Point) : Summand :=
  ⟨p.y + p.x, p.y - p.x, p.z + p.z, (d + d) * p.t⟩

/-- Prepares the opposite of a point from the prepared point. -/
def Summand.neg (s : Summand) : Summand := ⟨s.minus, s.plus, s.twoZ, -s.twoDT⟩

/-- Adds a prepared summand. -/
def addSummand (p : Point) (s : Summand) : Point :=
  let a := (p.y - p.x) * s.minus
  let b := (p.y + p.x) * s.plus
  let c := p.t * s.twoDT
  let e := p.z * s.twoZ
  ⟨(b - a) * (e - c), (e + c) * (b + a), (e - c) * (e + c), (b - a) * (b + a)⟩

/-- The sum of two points. -/
def add (p q : Point) : Point := p.addSummand q.toSummand

/-- Twice a point. -/
def double (p : Point) : Point :=
  let a := p.x * p.x
  let b := p.y * p.y
  let zz := p.z * p.z
  let h := a + b
  let s := p.x + p.y
  let e := h - s * s
  let g := a - b
  let f := zz + zz + g
  ⟨e * f, g * h, f * g, e * h⟩

/-! ## Sums of multiples -/

/-- The digits of a number to base two, each zero or odd and of size below 16, with at least four
zeros after each that is not zero. They come as pairs of place and digit, from `place` on. -/
def digits : (fuel place n : Nat) → List (Nat × Int)
  | 0, _, _ => []
  | fuel + 1, place, n =>
    if n = 0 then []
    else if n % 2 = 0 then digits fuel (place + 1) (n / 2)
    else
      let low := n % 32
      if low < 16 then (place, (low : Int)) :: digits fuel (place + 5) (n / 32)
      else (place, (low : Int) - 32) :: digits fuel (place + 5) (n / 32 + 1)

/-- The multiples of a point by 1, 3, 5 up to 15, prepared for addition. -/
def oddMultiples (p : Point) : Array Summand :=
  let twice := p.double.toSummand
  let step (acc : Array Summand × Point) (_ : Nat) : Array Summand × Point :=
    let next := acc.2.addSummand twice
    (acc.1.push next.toSummand, next)
  ((List.range 7).foldl step (#[p.toSummand], p)).1

instance : Inhabited Summand := ⟨zero.toSummand⟩

/-- The prepared multiple of a point by an odd digit. -/
def multiple (odd : Array Summand) (digit : Int) : Summand :=
  if digit < 0 then (odd.getD (digit.natAbs / 2) default).neg
  else odd.getD (digit.natAbs / 2) default

/-- Places of the digits of a scalar. -/
def places : Nat := 256

/-- Files what a term adds under the places at which it is added. -/
def fileTerm (filed : Array (List Summand)) (term : Scalar × Point) : Array (List Summand) :=
  let odd := term.2.oddMultiples
  (digits places 0 term.1.val).foldl
    (fun filed (place, digit) => filed.modify place (multiple odd digit :: ·)) filed

/-- The sum of the multiples in a list: at each place, from the highest down, what has been summed
is doubled and what is filed under the place is added. -/
def combine (terms : List (Scalar × Point)) : Point :=
  let filed := terms.foldl fileTerm (Array.replicate places [])
  filed.foldr (fun summands sum => summands.foldl addSummand sum.double) zero

/-- The multiple of a point. -/
def scale (k : Scalar) (p : Point) : Point := combine [(k, p)]

/-- Eight times a point is neutral, that is, the point has no part in the group of prime order. -/
def isSmallOrder (p : Point) : Bool :=
  let eightfold := p.double.double.double
  eightfold.x = 0 ∧ eightfold.y = eightfold.z

/-! ## Bytes -/

/-- A point as 32 bytes: `y`, with the sign of `x` in the highest bit. -/
def toBlock (p : Point) : Block 32 :=
  let inverse := p.z.inverse
  let x := p.x * inverse
  let y := p.y * inverse
  .ofNat 32 (y.val + if x.isNegative then highestBit else 0)

/-- The point that 32 bytes write; `none` when no point has the coordinate. A coordinate that is
not reduced, or a sign on `x = 0`, is let pass. -/
def ofBlock? (block : Block 32) : Option Point :=
  let y := Coordinate.ofBlock block
  let yy := y * y
  let (isSquare, root) := Coordinate.rootOfRatio (yy - 1) (d * yy + 1)
  let x := if highestBit ≤ block.toNat then -root else root
  if isSquare then some ⟨x, y, 1, x * y⟩ else none

end Point

end ConfidentialToken.Curve
