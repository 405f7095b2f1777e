import ConfidentialToken.PointGroup
import Mathlib.Algebra.BigOperators.Group.List.Basic
import Mathlib.Algebra.Group.MinimalAxioms
import Mathlib.Data.ZMod.Defs
import Mathlib.Tactic.Abel

/-!
# Points as a module over the scalars

What the library relies on of the arithmetic of points: they are a commutative group on which scalars
act linearly, and a combination is the sum of its multiples. The order of the group is that of the
scalars, so the action is where the order comes in. None of it is proved of a curve here.
-/

namespace ConfidentialToken.PointGroup

/-- The laws of points and their multiples. -/
class Linear (P : Type) [PointGroup P] : Prop where
  add_assoc (p q r : P) : add (add p q) r = add p (add q r)
  add_comm (p q : P) : add p q = add q p
  zero_add (p : P) : add zero p = p
  neg_add (p : P) : add (neg p) p = zero
  add_scale (k l : Scalar) (p : P) : scale (k + l) p = add (scale k p) (scale l p)
  scale_add (k : Scalar) (p q : P) : scale k (add p q) = add (scale k p) (scale k q)
  mul_scale (k l : Scalar) (p : P) : scale (k * l) p = scale k (scale l p)
  one_scale (p : P) : scale 1 p = p
  combine_nil : combine ([] : List (Scalar × P)) = zero
  combine_cons (k : Scalar) (p : P) (terms : List (Scalar × P)) :
    combine ((k, p) :: terms) = add (scale k p) (combine terms)

variable {P : Type} [PointGroup P] [Linear P]

namespace Linear

/-- The points as a commutative group. -/
instance group : AddCommGroup P :=
  letI : Add P := ⟨add⟩
  letI : Zero P := ⟨zero⟩
  letI : Neg P := ⟨neg⟩
  { AddGroup.ofLeftAxioms (G := P) add_assoc zero_add neg_add with add_comm := add_comm }

/-- The multiples of a point, as an additive map of the scalar. -/
def multiples (p : P) : Scalar →+ P :=
  AddMonoidHom.mk' (fun k => scale k p) fun k l => add_scale k l p

theorem scale_eq (k : Scalar) (p : P) : scale k p = multiples p k := rfl

/-- A combination is the sum of its multiples. -/
theorem combine_eq (terms : List (Scalar × P)) :
    combine terms = (terms.map fun term => multiples term.2 term.1).sum := by
  induction terms with
  | nil => exact combine_nil
  | cons term rest ih =>
    rw [List.map_cons, List.sum_cons, ← ih]
    exact combine_cons term.1 term.2 rest

theorem combine_pair (k l : Scalar) (p q : P) :
    combine [(k, p), (l, q)] = multiples p k + multiples q l := by
  simp only [combine_eq, List.map_cons, List.map_nil, List.sum_cons, List.sum_nil, add_zero]

theorem combine_triple (k l m : Scalar) (p q r : P) :
    combine [(k, p), (l, q), (m, r)] = multiples p k + multiples q l + multiples r m := by
  simp only [combine_eq, List.map_cons, List.map_nil, List.sum_cons, List.sum_nil]
  abel

theorem multiples_add (k : Scalar) (p q : P) :
    multiples (p + q) k = multiples p k + multiples q k :=
  scale_add k p q

theorem multiples_mul (k l : Scalar) (p : P) : multiples p (k * l) = multiples (multiples p l) k :=
  mul_scale k l p

end Linear

end ConfidentialToken.PointGroup
