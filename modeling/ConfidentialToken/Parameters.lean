import ConfidentialToken.Commitment
import ConfidentialToken.Identity

/-!
# Public parameters

What all participants of a network agree on: generators, the length of values, and who may issue and
who must audit. Parameters are identified by the digest of their byte form.
-/

namespace ConfidentialToken

/-- The curve that commitments are made over. -/
inductive CurveName where
  | ristretto255
deriving DecidableEq, Repr

/-- The name of the curve. -/
def CurveName.text : CurveName → String
  | ristretto255 => "Ristretto255"

/-- The size of range proofs. -/
structure RangeParameters where
  /-- Values lie in `[0, 2 ^ bitLength)`. -/
  bitLength : UInt64
  /-- Rounds of the inner product argument. -/
  rounds : UInt64
deriving DecidableEq

namespace RangeParameters

/-- The byte form: bit length and rounds. -/
def codec : Wire.Codec RangeParameters :=
  (Wire.Codec.u64.pair Wire.Codec.u64).via (fun (b, r) => ⟨b, r⟩) (fun p => (p.bitLength, p.rounds))

/-- The parameters of a bit length: its base-2 logarithm many rounds. -/
def ofBitLength (bits : UInt64) : Outcome RangeParameters :=
  if bits.toNat ∈ RangeProof.bitLengths then .ok ⟨bits, UInt64.ofNat bits.toNat.log2⟩
  else .error <| .setup s!"unsupported bit length {bits}"

/-- Checks that the rounds belong to the bit length. -/
def check (p : RangeParameters) : Outcome Unit := do
  let expected ← ofBitLength p.bitLength
  if expected.rounds ≠ p.rounds then
    throw <| .setup s!"{p.rounds} rounds are inconsistent with bit length {p.bitLength}"

/-- The parameters in record notation. -/
def display (p : RangeParameters) : String :=
  Text.record "RangeProofParams"
    [("bit_length", toString p.bitLength), ("number_of_rounds", toString p.rounds)]

end RangeParameters

/-- The label of the format of parameters. -/
def parametersLabel : String := "private_token.pp.v1"

/-- Public parameters over the points `P`. -/
structure PublicParameters (P : Type) where
  label : String
  curve : CurveName
  generators : Generators P
  range : RangeParameters
  issuers : List Identity
  auditors : List Identity

namespace PublicParameters

variable {P : Type} [PointGroup P]

/-- The byte form: the fields in order. -/
def codec : Wire.Codec (PublicParameters P) :=
  (Wire.Codec.text.pair ((Wire.Codec.choice [CurveName.ristretto255]).pair
    (Generators.codec.pair (RangeParameters.codec.pair
      (Identity.codec.list.pair Identity.codec.list))))).via
    (fun (l, c, g, r, i, a) => ⟨l, c, g, r, i, a⟩)
    (fun p => (p.label, p.curve, p.generators, p.range, p.issuers, p.auditors))

/-- The bytes of parameters, however many. -/
def toBytes (pp : PublicParameters P) : Bytes := codec.encode pp

/-- Writes parameters. -/
def serialize (pp : PublicParameters P) : Outcome Bytes := codec.write pp

/-- Checks that parameters are well formed. -/
def check (pp : PublicParameters P) : Outcome Unit := do
  if pp.label ≠ parametersLabel then
    throw <| .setup ("unknown parameters label `" ++ pp.label ++ "`")
  pp.generators.check
  pp.range.check
  if (pp.issuers ++ pp.auditors).any Identity.isNone then
    throw <| .setup "empty issuer or auditor identity"

/-- The digest of the byte form, in hexadecimal. -/
def identifier (pp : PublicParameters P) : String :=
  let bytes := pp.toBytes
  Bytes.hex <| Hash.sha256 <|
    Bytes.ofText parametersLabel ++ Bytes.littleEndian 8 bytes.length ++ bytes

/-- Checks parameters, and that they can be written. -/
def vet (pp : PublicParameters P) : Outcome (PublicParameters P) := do
  pp.check
  let _ ← pp.serialize
  return pp

/-- Parameters with the default generators. -/
def ofBitLength (bits : UInt64) (issuers auditors : List Identity) : Outcome (PublicParameters P) := do
  let range ← RangeParameters.ofBitLength bits
  vet ⟨parametersLabel, .ristretto255, .default, range, issuers, auditors⟩

/-- Reads parameters and checks them; bytes that cannot be read are a failure to set up. -/
def ofBytes (bytes : Bytes) : Outcome (PublicParameters P) := do
  let pp ← Outcome.inContext "cannot decode public parameters" <|
    (codec.read bytes).mapError Error.asSetup
  pp.vet

/-- Parameters with the default generators, values of 64 bits, and neither issuers nor auditors. -/
def default : PublicParameters P :=
  ⟨parametersLabel, .ristretto255, .default, ⟨64, 6⟩, [], []⟩

/-- Bits of a value. -/
def bitLength (pp : PublicParameters P) : Nat := pp.range.bitLength.toNat

/-- The greatest value of a token. -/
def maxValue (pp : PublicParameters P) : UInt64 := UInt64.ofNat (Nat.pow 2 pp.bitLength - 1)

/-- Whether an identity may issue. -/
def isIssuer (pp : PublicParameters P) (identity : Identity) : Bool := identity ∈ pp.issuers

/-- Whether an identity is named as an auditor. -/
def isAuditor (pp : PublicParameters P) (identity : Identity) : Bool := identity ∈ pp.auditors

/-- The parameters in record notation. -/
def display (pp : PublicParameters P) : String :=
  Text.record "PublicParameters"
    [("identifier", Text.quote pp.identifier), ("curve", pp.curve.text),
      ("range_proof_params", pp.range.display), ("issuers", toString pp.issuers.length),
      ("auditors", toString pp.auditors.length)]

end PublicParameters

end ConfidentialToken
