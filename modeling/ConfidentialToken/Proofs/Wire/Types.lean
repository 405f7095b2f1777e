import ConfidentialToken.Metadata
import ConfidentialToken.Parameters
import ConfidentialToken.Proofs.Suite.Plain
import ConfidentialToken.Proofs.Wire.Exact
import ConfidentialToken.Proofs.Wire.Identities
import ConfidentialToken.Proofs.Wire.Lossless

/-!
# The types of the wire

Every type that has a byte form of its own loses nothing when it is written and read, and those without
a map are read only from what is written for them.

The laws are about forms of any size. A form that is over the size limit is not written where the limit
is checked, and it is read all the same.
-/

namespace ConfidentialToken

namespace Wire.Codec

variable {α β : Type}

/-- A codec under which values and their forms are in bijection. -/
structure Faithful (codec : Codec α) : Prop extends Lossless codec where
  exact : codec.Exact

namespace Faithful

theorem pair {first : Codec α} {second : Codec β} (ha : first.Faithful) (hb : second.Faithful) :
    (first.pair second).Faithful :=
  ⟨ha.toLossless.pair hb.toLossless, ha.exact.pair hb.exact⟩

theorem via {codec : Codec α} {make : α → β} {unmake : β → α} (h : codec.Faithful)
    (made : ∀ value, make (unmake value) = value) (unmade : ∀ a, unmake (make a) = a) :
    (codec.via make unmake).Faithful :=
  ⟨h.toLossless.via made, h.exact.via unmade⟩

theorem option {codec : Codec α} (h : codec.Faithful) : codec.option.Faithful :=
  ⟨h.toLossless.option, h.exact.option⟩

theorem list {codec : Codec α} (h : codec.Faithful) : codec.list.Faithful :=
  ⟨h.toLossless.list, h.exact.list⟩

end Faithful

theorem faithful_block {n : Nat} (pos : 0 < n) : (block n).Faithful := ⟨lossless_block pos, exact_block n⟩

theorem faithful_u64 : u64.Faithful := ⟨lossless_u64, exact_u64⟩

theorem faithful_bytes : bytes.Faithful := ⟨lossless_bytes, exact_bytes⟩

theorem faithful_text : text.Faithful := ⟨lossless_text, exact_text⟩

theorem faithful_choice [DecidableEq α] {all : List α} (listed : ∀ value, value ∈ all)
    (once : all.Nodup) (small : all.length ≤ Nat.pow 256 4) : (choice all).Faithful :=
  ⟨lossless_choice listed small, exact_choice once⟩

theorem faithful_scalar : scalar.Faithful := ⟨lossless_scalar, exact_scalar⟩

theorem faithful_point {P : Type} [PointGroup P] [PointGroup.LawfulEncoding P] (fault : Fault) :
    (point P fault).Faithful :=
  ⟨lossless_point fault, exact_point fault⟩

theorem faithful_rangeProof : rangeProof.Faithful := ⟨lossless_rangeProof, exact_rangeProof⟩

end Wire.Codec

open Wire.Codec

/-! ## Identities -/

theorem Identity.faithful : Identity.codec.Faithful :=
  faithful_bytes.via (fun _ => rfl) fun _ => rfl

theorem TypedIdentity.faithful : TypedIdentity.codec.Faithful :=
  (faithful_text.pair Identity.faithful).via (fun _ => rfl) fun _ => rfl

/-- An identity that is unwrapped, and whose tag names a kind, is what is wrapped under this kind. -/
theorem TypedIdentity.eq_wrap_of_parse {identity : Identity} {typed : TypedIdentity}
    {kind : IdentityKind} (parsed : parse identity = .ok typed) (named : typed.kind = .ok kind) :
    identity = wrap kind typed.identity ∧ typed.identity.Fits := by
  have read := Outcome.inContext_eq_ok_iff.mp parsed
  have fits : codec.Ensures fun typed => typed.identity.Fits :=
    .via <| (Ensures.pair (ensures_true _) Identity.ensures_fits).mono fun _ h => h.2
  have form : codec.encode typed = identity.bytes := faithful.exact.encode_of_read read
  refine ⟨?_, fits.of_read read⟩
  rw [wrap, ← IdentityKind.tag_of_ofTag named, toIdentity, form]

theorem X509Identity.faithful : X509Identity.codec.Faithful :=
  (faithful_text.pair (faithful_block (by decide))).via (fun _ => rfl) fun _ => rfl

theorem AuditInfo.faithful : AuditInfo.codec.Faithful :=
  (faithful_text.pair (faithful_bytes.pair faithful_scalar.option)).via (fun _ => rfl) fun _ => rfl

theorem HashFunction.faithful : (choice [HashFunction.sha256, .sha512]).Faithful :=
  faithful_choice (by intro function; cases function <;> decide) (by decide) (by decide)

theorem ImageEncoding.faithful : (choice [ImageEncoding.raw, .hex]).Faithful :=
  faithful_choice (by intro encoding; cases encoding <;> decide) (by decide) (by decide)

theorem HashLock.faithful : HashLock.codec.Faithful :=
  (faithful_bytes.pair (HashFunction.faithful.pair ImageEncoding.faithful)).via (fun _ => rfl)
    fun _ => rfl

theorem Script.faithful : Script.codec.Faithful :=
  (Identity.faithful.pair (Identity.faithful.pair (faithful_u64.pair HashLock.faithful))).via
    (fun _ => rfl) fun _ => rfl

theorem ScriptInfo.faithful : ScriptInfo.codec.Faithful :=
  (faithful_bytes.pair faithful_bytes).via (fun _ => rfl) fun _ => rfl

section

variable {P : Type} [PointGroup P] [PointGroup.LawfulEncoding P]

theorem Commitment.faithful : (Commitment.codec (P := P)).Faithful :=
  (faithful_point _).via (fun _ => rfl) fun _ => rfl

theorem IdemixIdentity.faithful : (IdemixIdentity.codec (P := P)).Faithful :=
  (Commitment.faithful.pair (faithful_block (by decide))).via (fun _ => rfl) fun _ => rfl

end

/-! ## Tokens and actions -/

theorem TokenId.faithful : TokenId.codec.Faithful :=
  (faithful_text.pair faithful_u64).via (fun _ => rfl) fun _ => rfl

theorem Opening.faithful : Opening.codec.Faithful :=
  (faithful_text.pair (faithful_u64.pair faithful_scalar)).via (fun _ => rfl) fun _ => rfl

theorem Disclosure.faithful : Disclosure.codec.Faithful :=
  (Opening.faithful.pair Identity.faithful.option).via (fun _ => rfl) fun _ => rfl

section

variable {P : Type} [PointGroup P] [PointGroup.LawfulEncoding P]

theorem Token.faithful : (Token.codec (P := P)).Faithful :=
  (Identity.faithful.pair Commitment.faithful).via (fun _ => rfl) fun _ => rfl

theorem ActionInput.faithful : (ActionInput.codec (P := P)).Faithful :=
  (TokenId.faithful.pair Token.faithful).via (fun _ => rfl) fun _ => rfl

/-- An issue reads back as it was written. It is not faithful, because its metadata is a map. -/
theorem IssueAction.lossless : (IssueAction.codec (P := P)).Lossless :=
  (Identity.faithful.toLossless.pair (Token.faithful.list.toLossless.pair
    (lossless_bytes.pair lossless_map))).via fun _ => rfl

/-- A transfer reads back as it was written. -/
theorem TransferAction.lossless : (TransferAction.codec (P := P)).Lossless :=
  (ActionInput.faithful.list.toLossless.pair (Token.faithful.list.toLossless.pair
    (lossless_bytes.pair (lossless_map.pair Identity.faithful.list.toLossless)))).via fun _ => rfl

end

/-! ## Requests and their metadata -/

theorem AuditorSignature.faithful : AuditorSignature.codec.Faithful :=
  (Identity.faithful.pair faithful_bytes).via (fun _ => rfl) fun _ => rfl

theorem TokenRequest.faithful : TokenRequest.codec.Faithful :=
  (faithful_bytes.list.pair (faithful_bytes.list.pair (faithful_bytes.list.pair
    AuditorSignature.faithful.list))).via (fun _ => rfl) fun _ => rfl

theorem IssueMetadata.faithful : IssueMetadata.codec.Faithful :=
  (Identity.faithful.pair (TokenId.faithful.list.pair (faithful_bytes.list.pair
    (Identity.faithful.list.pair (faithful_bytes.list.pair Identity.faithful.list))))).via
    (fun _ => rfl) fun _ => rfl

theorem TransferMetadata.faithful : TransferMetadata.codec.Faithful :=
  (TokenId.faithful.list.pair (Identity.faithful.list.pair (faithful_bytes.list.pair
    (faithful_bytes.list.pair (faithful_bytes.list.pair (Identity.faithful.list.pair
      (faithful_bytes.list.pair Identity.faithful.list))))))).via (fun _ => rfl) fun _ => rfl

/-- The metadata of a request reads back as it was written. -/
theorem RequestMetadata.lossless : RequestMetadata.codec.Lossless :=
  (IssueMetadata.faithful.list.toLossless.pair (TransferMetadata.faithful.list.toLossless.pair
    lossless_map)).via fun _ => rfl

/-! ## Parameters and proofs -/

theorem CurveName.faithful : (choice [CurveName.ristretto255]).Faithful :=
  faithful_choice (by intro curve; cases curve; decide) (by decide) (by decide)

theorem RangeParameters.faithful : RangeParameters.codec.Faithful :=
  (faithful_u64.pair faithful_u64).via (fun _ => rfl) fun _ => rfl

theorem ZeroValueProof.faithful : ZeroValueProof.codec.Faithful :=
  (faithful_scalar.pair faithful_scalar).via (fun _ => rfl) fun _ => rfl

theorem RangeProofs.faithful : RangeProofs.codec.Faithful :=
  faithful_rangeProof.list.via (fun _ => rfl) fun _ => rfl

section

variable {P : Type} [PointGroup P] [PointGroup.LawfulEncoding P]

theorem Generators.faithful : (Generators.codec (P := P)).Faithful :=
  ((faithful_point _).pair ((faithful_point _).pair (faithful_point _))).via (fun _ => rfl)
    fun _ => rfl

theorem PublicParameters.faithful : (PublicParameters.codec (P := P)).Faithful :=
  (faithful_text.pair (CurveName.faithful.pair (Generators.faithful.pair
    (RangeParameters.faithful.pair (Identity.faithful.list.pair Identity.faithful.list))))).via
    (fun _ => rfl) fun _ => rfl

theorem SameTypeProof.faithful : (SameTypeProof.codec (P := P)).Faithful :=
  (Commitment.faithful.pair (faithful_scalar.pair (faithful_scalar.pair faithful_scalar))).via
    (fun _ => rfl) fun _ => rfl

theorem IssueProof.faithful : (IssueProof.codec (P := P)).Faithful :=
  (SameTypeProof.faithful.pair RangeProofs.faithful).via (fun _ => rfl) fun _ => rfl

theorem TransferProof.faithful : (TransferProof.codec (P := P)).Faithful :=
  (SameTypeProof.faithful.pair (ZeroValueProof.faithful.pair RangeProofs.faithful)).via
    (fun _ => rfl) fun _ => rfl

end

/-! ## All types -/

/-- The types that have a byte form of their own. -/
inductive WireType where
  | token
  | tokenId
  | disclosure
  | opening
  | identity
  | typedIdentity
  | x509Identity
  | idemixIdentity
  | auditInfo
  | hashLock
  | script
  | scriptInfo
  | issueAction
  | transferAction
  | tokenRequest
  | auditorSignature
  | issueMetadata
  | transferMetadata
  | requestMetadata
  | generators
  | publicParameters
  | sameTypeProof
  | zeroValueProof
  | rangeProofs
  | issueProof
  | transferProof
deriving DecidableEq

namespace WireType

/-- The values of a type. -/
abbrev Value (P : Type) : WireType → Type
  | token => Token P
  | tokenId => TokenId
  | disclosure => Disclosure
  | opening => Opening
  | identity => Identity
  | typedIdentity => TypedIdentity
  | x509Identity => X509Identity
  | idemixIdentity => IdemixIdentity P
  | auditInfo => AuditInfo
  | hashLock => HashLock
  | script => Script
  | scriptInfo => ScriptInfo
  | issueAction => IssueAction P
  | transferAction => TransferAction P
  | tokenRequest => TokenRequest
  | auditorSignature => AuditorSignature
  | issueMetadata => IssueMetadata
  | transferMetadata => TransferMetadata
  | requestMetadata => RequestMetadata
  | generators => Generators P
  | publicParameters => PublicParameters P
  | sameTypeProof => SameTypeProof P
  | zeroValueProof => ZeroValueProof
  | rangeProofs => RangeProofs
  | issueProof => IssueProof P
  | transferProof => TransferProof P

/-- The byte form of a type. -/
def codec (P : Type) [PointGroup P] : (type : WireType) → Wire.Codec (type.Value P)
  | token => Token.codec
  | tokenId => TokenId.codec
  | disclosure => Disclosure.codec
  | opening => Opening.codec
  | identity => Identity.codec
  | typedIdentity => TypedIdentity.codec
  | x509Identity => X509Identity.codec
  | idemixIdentity => IdemixIdentity.codec
  | auditInfo => AuditInfo.codec
  | hashLock => HashLock.codec
  | script => Script.codec
  | scriptInfo => ScriptInfo.codec
  | issueAction => IssueAction.codec
  | transferAction => TransferAction.codec
  | tokenRequest => TokenRequest.codec
  | auditorSignature => AuditorSignature.codec
  | issueMetadata => IssueMetadata.codec
  | transferMetadata => TransferMetadata.codec
  | requestMetadata => RequestMetadata.codec
  | generators => Generators.codec
  | publicParameters => PublicParameters.codec
  | sameTypeProof => SameTypeProof.codec
  | zeroValueProof => ZeroValueProof.codec
  | rangeProofs => RangeProofs.codec
  | issueProof => IssueProof.codec
  | transferProof => TransferProof.codec

/-- Whether values of the type hold a map. -/
def hasMap : WireType → Bool
  | issueAction | transferAction | requestMetadata => true
  | _ => false

variable {P : Type} [PointGroup P] [PointGroup.LawfulEncoding P]

/-- Every type loses nothing, and those without a map are read from one spelling only. -/
theorem laws (type : WireType) :
    (type.codec P).Lossless ∧ (type.hasMap = false → (type.codec P).Exact) := by
  have both {α : Type} {codec : Wire.Codec α} (h : codec.Faithful) {condition : Prop} :
      codec.Lossless ∧ (condition → codec.Exact) := ⟨h.toLossless, fun _ => h.exact⟩
  cases type with
  | token => exact both Token.faithful
  | tokenId => exact both TokenId.faithful
  | disclosure => exact both Disclosure.faithful
  | opening => exact both Opening.faithful
  | identity => exact both Identity.faithful
  | typedIdentity => exact both TypedIdentity.faithful
  | x509Identity => exact both X509Identity.faithful
  | idemixIdentity => exact both IdemixIdentity.faithful
  | auditInfo => exact both AuditInfo.faithful
  | hashLock => exact both HashLock.faithful
  | script => exact both Script.faithful
  | scriptInfo => exact both ScriptInfo.faithful
  | issueAction => exact ⟨IssueAction.lossless, nofun⟩
  | transferAction => exact ⟨TransferAction.lossless, nofun⟩
  | tokenRequest => exact both TokenRequest.faithful
  | auditorSignature => exact both AuditorSignature.faithful
  | issueMetadata => exact both IssueMetadata.faithful
  | transferMetadata => exact both TransferMetadata.faithful
  | requestMetadata => exact ⟨RequestMetadata.lossless, nofun⟩
  | generators => exact both Generators.faithful
  | publicParameters => exact both PublicParameters.faithful
  | sameTypeProof => exact both SameTypeProof.faithful
  | zeroValueProof => exact both ZeroValueProof.faithful
  | rangeProofs => exact both RangeProofs.faithful
  | issueProof => exact both IssueProof.faithful
  | transferProof => exact both TransferProof.faithful

/-- The form of a value reads back as the value, and it is written if it is within the size limit. A
proper part of it is not read, and neither is it with more bytes behind it. -/
theorem read_form (type : WireType) (value : type.Value P)
    (fits : ((type.codec P).encode value).length < Wire.lengthBound) :
    (type.codec P).read ((type.codec P).encode value) = .ok value ∧
    (∀ part, part <+: (type.codec P).encode value → part ≠ (type.codec P).encode value →
      ∃ fault, (type.codec P).read part = .error (.ofWire fault)) ∧
    (∀ more, more ≠ [] →
      (type.codec P).read ((type.codec P).encode value ++ more) =
        .error (.ofWire .trailingBytes)) ∧
    (((type.codec P).encode value).length ≤ Wire.sizeLimit →
      (type.codec P).write value = .ok ((type.codec P).encode value)) := by
  obtain ⟨lossless, -⟩ := type.laws (P := P)
  have trips := lossless.roundTrips fits
  exact ⟨trips.read_encode, fun _ => read_part_eq_error trips lossless.delimits,
    fun _ => read_append_eq_error trips, fun short => write_eq_ok_iff.mpr ⟨rfl, short⟩⟩

/-- Metadata with two entries of applications is read back, and not when its last byte is missing. -/
theorem read_form_application :
    let metadata : RequestMetadata := ⟨[], [], .ofList [("reference", [7]), ("purpose", [1, 2])]⟩
    let form := RequestMetadata.codec.encode metadata
    form.length < Wire.lengthBound ∧ RequestMetadata.codec.read form = .ok metadata ∧
      ∃ fault, RequestMetadata.codec.read form.dropLast = .error (.ofWire fault) := by
  intro metadata form
  have fits : form.length < Wire.lengthBound := by decide
  obtain ⟨read, parts, -⟩ := requestMetadata.read_form (P := Plain) metadata fits
  exact ⟨fits, read, parts form.dropLast (List.dropLast_prefix form) (by decide)⟩

/-- Bytes that are read as a value of a type without a map are the form of the value, so no other bytes
are read as it; they are written again if they are within the size limit. -/
theorem form_of_read (type : WireType) (mapFree : type.hasMap = false) {bytes : Bytes}
    {value : type.Value P} (read : (type.codec P).read bytes = .ok value) :
    (type.codec P).encode value = bytes ∧
    (∀ other, (type.codec P).read other = .ok value → other = bytes) ∧
    (bytes.length ≤ Wire.sizeLimit → (type.codec P).write value = .ok bytes) := by
  have exact := (type.laws (P := P)).2 mapFree
  have form := exact.encode_of_read read
  refine ⟨form, fun other read' => ?_, fun short => write_eq_ok_iff.mpr ⟨form, short⟩⟩
  rw [← exact.encode_of_read read', form]

/-- The bytes of a script are the only ones that are read as it. -/
theorem form_of_read_script :
    let script : Script := ⟨⟨[1, 2]⟩, ⟨[3]⟩, 1700000000, ⟨[4, 5, 6], .sha512, .hex⟩⟩
    let bytes := Script.codec.encode script
    Script.codec.read bytes = .ok script ∧
      ∀ other, Script.codec.read other = .ok script → other = bytes := by
  intro script bytes
  have short : bytes.length < Wire.lengthBound := by decide
  have read : Script.codec.read bytes = .ok script := (Script.faithful.roundTrips short).read_encode
  exact ⟨read, (WireType.script.form_of_read (P := Plain) rfl read).2.1⟩

end WireType

end ConfidentialToken
