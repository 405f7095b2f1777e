import ConfidentialToken.Scalar

/-!
# Random draws

What a prover draws at random is an argument of it: an endless tape of scalars. A claim about every
outcome of the draws is then a claim about every tape, and only the program around the library has
to find randomness.
-/

namespace ConfidentialToken

/-- An endless tape of random scalars. -/
abbrev Draws := Nat → Scalar

namespace Draws

/-- The tape without its first `n` scalars. -/
def skip (draws : Draws) (n : Nat) : Draws := fun i => draws (n + i)

/-- The first `n` scalars of the tape. -/
def take (draws : Draws) (n : Nat) : List Scalar := (List.range n).map draws

end Draws

end ConfidentialToken
