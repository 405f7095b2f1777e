import ConfidentialToken.Error

/-!
# Commitments

A token's data is a Pedersen commitment over three generators: the type base carries the hashed
type, the value base the value, and the blinding base a random factor. Taking away a commitment to
the type leaves a commitment to the value over the last two, which is what range proofs speak of.
-/

namespace ConfidentialToken

/-- A commitment: a point of the group. -/
structure Commitment (P : Type) where
  point : P

namespace Commitment

variable {P : Type} [PointGroup P]

instance : DecidableEq (Commitment P) := fun c d =>
  if h : c.point = d.point then isTrue (by cases c; cases d; cases h; rfl)
  else isFalse fun e => h (congrArg point e)

instance : Zero (Commitment P) := ⟨⟨PointGroup.zero⟩⟩
instance : Add (Commitment P) := ⟨fun c d => ⟨PointGroup.add c.point d.point⟩⟩
instance : Neg (Commitment P) := ⟨fun c => ⟨PointGroup.neg c.point⟩⟩
instance : Sub (Commitment P) := ⟨fun c d => ⟨PointGroup.sub c.point d.point⟩⟩

/-- The sum of commitments. -/
def sum (commitments : List (Commitment P)) : Commitment P := commitments.foldl (· + ·) 0

/-- Whether the commitment is the neutral point. -/
def isIdentity (c : Commitment P) : Bool := c = 0

/-- The 32 bytes of a commitment. -/
def toBytes (c : Commitment P) : Bytes := (PointGroup.encode c.point).bytes

/-- The commitment with the given bytes, if they are 32 and write a point. -/
def ofBytes? (bytes : Bytes) : Option (Commitment P) := do
  let block ← Block.ofBytes? 32 bytes
  let point ← PointGroup.decode block
  return ⟨point⟩

/-- The byte form: the 32 bytes. -/
def codec : Wire.Codec (Commitment P) :=
  (Wire.Codec.point P .commitment).via (⟨·⟩) point

/-- The linear combination of generators with values. -/
def ofValues (values : List Scalar) (generators : List P) : Outcome (Commitment P) :=
  if values.length = generators.length then .ok ⟨PointGroup.combine (values.zip generators)⟩
  else .error <| .malformed <|
    s!"cannot commit to {values.length} values with {generators.length} generators"

end Commitment

/-- The three generators of token commitments. -/
structure Generators (P : Type) where
  typeBase : P
  valueBase : P
  blindingBase : P

namespace Generators

variable {P : Type} [PointGroup P]

/-- The generators in order. -/
def toList (g : Generators P) : List P := [g.typeBase, g.valueBase, g.blindingBase]

instance : DecidableEq (Generators P) := fun g h =>
  if e : g.toList = h.toList then
    isTrue (by cases g; cases h; simp only [toList, List.cons.injEq] at e; simp [e])
  else isFalse fun e' => e (congrArg toList e')

/-- The byte form: three points. -/
def codec : Wire.Codec (Generators P) :=
  let point := Wire.Codec.point P .generator
  (point.pair (point.pair point)).via
    (fun (t, v, b) => ⟨t, v, b⟩) (fun g => (g.typeBase, g.valueBase, g.blindingBase))

/-- The generator at a place under a label, hashed so that nobody knows its logarithm. -/
def deriveAt (label : Bytes) (place : UInt8) : P :=
  PointGroup.hash (label ++ Bytes.ofText ".G" ++ [place])

/-- The generators under a label. -/
def derive (label : Bytes) : Generators P :=
  ⟨deriveAt label 0, deriveAt label 1, deriveAt label 2⟩

/-- The generators that parameters have unless they name others. -/
def default : Generators P := derive (Bytes.ofText "private_token.pedersen.v1")

/-- Checks a list of points, given the points before it: none may be the identity or occur twice. -/
def checkFrom (before : List P) : List P → Outcome Unit
  | [] => .ok ()
  | p :: rest =>
    if p = PointGroup.zero then
      .error <| .setup s!"pedersen generator [{before.length}] is the identity"
    else if p ∈ before then
      .error <| .setup s!"pedersen generator [{before.length}] is duplicated"
    else checkFrom (before ++ [p]) rest

/-- Checks that the generators are pairwise distinct and not the identity. -/
def check (g : Generators P) : Outcome Unit := checkFrom [] g.toList

/-- Generators from three points, checked. -/
def ofPoints (points : List P) : Outcome (Generators P) := do
  match points with
  | [t, v, b] =>
    let g : Generators P := ⟨t, v, b⟩
    g.check
    return g
  | _ => throw <| .setup s!"expected 3 pedersen generators, got {points.length}"

/-- The commitment to a type, a value and a blinding factor. -/
def commitToken (g : Generators P) (tokenType : String) (value : UInt64) (blinding : Scalar) :
    Commitment P :=
  ⟨PointGroup.combine [(Scalar.hash (Bytes.ofText tokenType), g.typeBase),
    (Scalar.ofNat value.toNat, g.valueBase), (blinding, g.blindingBase)]⟩

/-- The commitment to a type alone. -/
def commitType (g : Generators P) (tokenType : String) (blinding : Scalar) : Commitment P :=
  ⟨PointGroup.combine [(Scalar.hash (Bytes.ofText tokenType), g.typeBase),
    (blinding, g.blindingBase)]⟩

end Generators

end ConfidentialToken
