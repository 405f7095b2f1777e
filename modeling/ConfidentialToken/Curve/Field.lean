import ConfidentialToken.Bytes

/-!
# The coordinate field

Coordinates of curve points are integers modulo `2 ^ 255 - 19`. Besides arithmetic the curve needs
the square root of a ratio, which exists for one of `u / v` and `i * u / v` where `i` is the square
root of minus one.
-/

namespace ConfidentialToken.Curve

/-- The prime that coordinates are reduced by, nineteen less than `2 ^ 255`. -/
def fieldPrime : Nat :=
  57896044618658097711785492504343953926634992332820282019728792003956564819949

/-- The weight of the highest bit of 32 bytes. No coordinate needs it; the bytes of a point hold a
sign in it. -/
def highestBit : Nat := Nat.pow 2 255

/-- A coordinate: an integer modulo the prime, by its least residue. -/
structure Coordinate where
  val : Nat
  isLt : val < fieldPrime
deriving DecidableEq

namespace Coordinate

/-- The residue of a number. -/
def ofNat (n : Nat) : Coordinate := ⟨n % fieldPrime, Nat.mod_lt n (by unfold fieldPrime; omega)⟩

instance (n : Nat) : OfNat Coordinate n := ⟨ofNat n⟩

/-- The sum, by one subtraction where it overflows. -/
def add (x y : Coordinate) : Coordinate :=
  if h : x.val + y.val < fieldPrime then ⟨x.val + y.val, h⟩
  else ⟨x.val + y.val - fieldPrime, by have := x.isLt; have := y.isLt; omega⟩

/-- The difference, by one addition where it would be negative. -/
def sub (x y : Coordinate) : Coordinate :=
  if h : y.val ≤ x.val then ⟨x.val - y.val, by have := x.isLt; omega⟩
  else ⟨x.val + fieldPrime - y.val, by have := x.isLt; omega⟩

/-- The product. -/
def mul (x y : Coordinate) : Coordinate := ofNat (x.val * y.val)

instance : Add Coordinate := ⟨add⟩
instance : Sub Coordinate := ⟨sub⟩
instance : Mul Coordinate := ⟨mul⟩
instance : Neg Coordinate := ⟨fun x => sub 0 x⟩

/-- The square root of minus one that the curve's formulas use. -/
def rootOfMinusOne : Coordinate :=
  19681161376707505956807079304988542015446066515923890162744021073123829784752

/-- A coordinate counts as negative when its least residue is odd. -/
def isNegative (x : Coordinate) : Bool := x.val % 2 = 1

/-- The one of `x` and `-x` that is not negative. -/
def absolute (x : Coordinate) : Coordinate := if x.isNegative then -x else x

/-- Squares `count` times. -/
def squareTimes : (count : Nat) → Coordinate → Coordinate
  | 0, x => x
  | count + 1, x => squareTimes count (x * x)

/-- `x ^ (2 ^ 252 - 3)`, by the chain that doubles the number of ones in the exponent. -/
def powerForRoot (x : Coordinate) : Coordinate :=
  let ones2 := squareTimes 1 x * x
  let ones4 := squareTimes 2 ones2 * ones2
  let ones5 := squareTimes 1 ones4 * x
  let ones10 := squareTimes 5 ones5 * ones5
  let ones20 := squareTimes 10 ones10 * ones10
  let ones40 := squareTimes 20 ones20 * ones20
  let ones50 := squareTimes 10 ones40 * ones10
  let ones100 := squareTimes 50 ones50 * ones50
  let ones200 := squareTimes 100 ones100 * ones100
  let ones250 := squareTimes 50 ones200 * ones50
  squareTimes 2 ones250 * x

/-- The multiplicative inverse `x ^ (2 ^ 255 - 21)`; zero has the inverse zero. -/
def inverse (x : Coordinate) : Coordinate :=
  squareTimes 3 (powerForRoot x) * (x * x * x)

/-- Whether `u / v` is a square, with its root that is not negative; when it is none, the root of
`i * u / v` instead. -/
def rootOfRatio (u v : Coordinate) : Bool × Coordinate :=
  let v3 := v * v * v
  let v7 := v3 * v3 * v
  let r := u * v3 * powerForRoot (u * v7)
  let check := v * (r * r)
  let root := if check = -u ∨ check = -u * rootOfMinusOne then rootOfMinusOne * r else r
  (check = u ∨ check = -u, root.absolute)

/-- The residue of the number that 32 bytes write, their highest bit aside. -/
def ofBlock (block : Block 32) : Coordinate :=
  ofNat (block.toNat % highestBit)

/-- A coordinate as 32 bytes, lowest byte first. -/
def toBlock (x : Coordinate) : Block 32 := .ofNat 32 x.val

end Coordinate

end ConfidentialToken.Curve
