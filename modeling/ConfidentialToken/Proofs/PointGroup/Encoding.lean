import ConfidentialToken.Suite.Ristretto

/-!
# One encoding a point

What the library relies on of the bytes of points: reading undoes writing and writing undoes reading,
so a point has exactly one encoding. The Ristretto group satisfies it by construction, since its points
carry their bytes.
-/

namespace ConfidentialToken.PointGroup

/-- Points and the blocks that decode are in bijection. -/
class LawfulEncoding (P : Type) [PointGroup P] : Prop where
  /-- The bytes of a point read back as the point. -/
  decode_encode (p : P) : decode (encode p) = some p
  /-- The bytes that read as a point are the bytes of the point. -/
  encode_of_decode {block : Block 32} {p : P} : decode block = some p → encode p = block

instance : LawfulEncoding Curve.Ristretto where
  decode_encode := Curve.Ristretto.ofBlock?_block
  encode_of_decode := Curve.Ristretto.block_of_ofBlock?

/-- Points with the same bytes are the same. -/
theorem LawfulEncoding.encode_inj {P : Type} [PointGroup P] [LawfulEncoding P] {p q : P} :
    encode p = encode q ↔ p = q := by
  refine ⟨fun same => ?_, fun same => congrArg encode same⟩
  have read := decode_encode p
  rw [same, decode_encode q] at read
  exact (Option.some.inj read).symm

end ConfidentialToken.PointGroup
