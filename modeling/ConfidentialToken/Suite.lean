import ConfidentialToken.RangeProof.Prove
import ConfidentialToken.Signature.Ed25519

/-!
# Cryptographic suites

What the token rules take from cryptography: a group for commitments, a range proof about values
committed in it, and signatures. The rules are written over any suite. Which laws a suite obeys is
not part of it; a theorem that rests on one, say that an honest proof verifies, names it.
-/

namespace ConfidentialToken

/-- The operations of a suite over the points `P`. -/
class Suite (P : Type) extends PointGroup P where
  /-- Proves that a value lies below a power of two; gives the proof and the commitment to the
  value. The generators of range proofs number `capacity`. -/
  proveRange : (value blinding : P) → (capacity : Nat) → Transcript → UInt64 → Scalar →
    (bits : Nat) → Draws → Except RangeProof.Fault (RangeProof × P)
  /-- Checks a range proof about a commitment. -/
  verifyRange : (value blinding : P) → (capacity : Nat) → Transcript → (commitment : P) →
    (bits : Nat) → RangeProof → Except RangeProof.Fault Unit
  /-- The public key of a seed. -/
  publicKey : Block 32 → Block 32
  /-- Signs a message with the key of a seed. -/
  sign : Block 32 → Bytes → Bytes
  /-- Verifies a signature of a message under a public key. -/
  verifySignature : (key : Block 32) → (message signature : Bytes) → Except SignatureFault Unit

end ConfidentialToken
