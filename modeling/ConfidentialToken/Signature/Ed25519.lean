import ConfidentialToken.Curve.Edwards

/-!
# Ed25519 signatures

Keys, signing and strict verification: the second half of a signature must be a canonical scalar,
neither its first half nor the key may lie in the small subgroup, and the first half is compared as
bytes.
-/

namespace ConfidentialToken

/-- Why a signature is refused. -/
inductive SignatureFault where
  /-- The key's bytes write no curve point. -/
  | invalidKey
  /-- A signature is not 64 bytes long. -/
  | wrongLength
  /-- The signature is not one of the message under the key. -/
  | mismatch
deriving DecidableEq, Repr

namespace Ed25519

open Curve

/-- What a seed expands to: a secret scalar, and the bytes that nonces are derived from. -/
structure SecretKey where
  scalar : Scalar
  nonceSeed : Bytes

/-- Expands a seed: the lower half of its digest becomes a multiple of eight between `2 ^ 254` and
`2 ^ 255`, reduced. -/
def SecretKey.ofSeed (seed : Block 32) : SecretKey :=
  let (low, high) := (Hash.sha512 seed.bytes).splitAt 32
  let top := Nat.pow 2 254
  let n := Bytes.toNat low % top
  ⟨Scalar.ofNat (top + (n - n % 8)), high⟩

/-- The public key of a seed. -/
def publicKey (seed : Block 32) : Block 32 :=
  (Point.base.scale (SecretKey.ofSeed seed).scalar).toBlock

/-- The challenge that binds a nonce point, a key and a message. -/
def challenge (nonce key : Block 32) (message : Bytes) : Scalar :=
  Scalar.hash (nonce.bytes ++ key.bytes ++ message)

/-- Signs a message. -/
def sign (seed : Block 32) (message : Bytes) : Bytes :=
  let secret := SecretKey.ofSeed seed
  let key := (Point.base.scale secret.scalar).toBlock
  let nonce := Scalar.hash (secret.nonceSeed ++ message)
  let nonceBlock := (Point.base.scale nonce).toBlock
  let response := nonce + challenge nonceBlock key message * secret.scalar
  nonceBlock.bytes ++ response.toBlock.bytes

/-- Checks the two halves of a signature against a key that is a curve point. -/
def accepts (key : Block 32) (point : Point) (message : Bytes) (nonce : Block 32)
    (response : Block 32) : Bool :=
  match Scalar.ofBlock? response, Point.ofBlock? nonce with
  | some s, some r =>
    let expected := Point.combine [(s, Point.base), (challenge nonce key message, point.neg)]
    !r.isSmallOrder ∧ !point.isSmallOrder ∧ expected.toBlock = nonce
  | _, _ => false

/-- Verifies a signature of a message under a key. -/
def verify (key : Block 32) (message signature : Bytes) : Except SignatureFault Unit :=
  match Point.ofBlock? key with
  | none => .error .invalidKey
  | some point =>
    let (low, high) := signature.splitAt 32
    match Block.ofBytes? 32 low, Block.ofBytes? 32 high with
    | some nonce, some response =>
      if accepts key point message nonce response then .ok () else .error .mismatch
    | _, _ => .error .wrongLength

end Ed25519

end ConfidentialToken
