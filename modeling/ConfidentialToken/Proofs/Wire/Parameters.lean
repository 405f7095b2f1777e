import ConfidentialToken.Proofs.Assembly.Requests
import ConfidentialToken.Proofs.Task.Failure
import ConfidentialToken.Proofs.Validation.PreImages
import ConfidentialToken.Proofs.Wire.Types

/-!
# Canonical parameters

Participants agree on parameters by the digest of their bytes, so it matters that no parameters can be
read from two byte strings, and that none are read that are not well formed. Bytes are read exactly if
they are what is written for well-formed parameters; all other bytes are refused. Equal parameters have
equal identifiers however they were made, and different ones have equal identifiers only if the digest has
a collision.

What is refused is a failure to set up, with one exception. Parameters that were read are written again
for their identifier, and there is a size limit for writing and none for reading. So the bytes of
well-formed parameters that are over the limit are decoded, and then refused as malformed input
(`Plain.longParameters_refused`).
-/

namespace ConfidentialToken

open Wire (lengthBound)
open Wire.Codec

/-! ## What is checked -/

section

variable {P : Type} [PointGroup P]

namespace Generators

theorem checkFrom_eq_ok_iff {before points : List P} :
    checkFrom before points = .ok () ↔
      PointGroup.zero ∉ points ∧ points.Nodup ∧ before.Disjoint points := by
  induction points generalizing before with
  | nil => simp [checkFrom]
  | cons p rest ih =>
    unfold checkFrom
    rw [List.mem_cons, List.nodup_cons, List.disjoint_cons_right]
    split
    · next neutral => exact iff_of_false nofun fun h => h.1 (.inl neutral.symm)
    · next proper =>
      split
      · next repeated => exact iff_of_false nofun fun h => h.2.2.1 repeated
      · next fresh =>
        rw [ih, List.disjoint_append_left, List.singleton_disjoint]
        have apart : ¬ PointGroup.zero = p := fun same => proper same.symm
        tauto

/-- Generators pass their check if they are pairwise distinct and none is neutral. -/
theorem check_eq_ok_iff {g : Generators P} :
    g.check = .ok () ↔ PointGroup.zero ∉ g.toList ∧ g.toList.Nodup := by
  unfold check
  rw [checkFrom_eq_ok_iff]
  exact and_congr_right fun _ => and_iff_left (List.disjoint_nil_left _)

theorem check_failsOnly (g : Generators P) : g.check.FailsOnly (· = .setup) := by
  have each (before points : List P) : (checkFrom before points).FailsOnly (· = .setup) := by
    induction points generalizing before with
    | nil => exact .ok ()
    | cons p rest ih => exact .ite (fun _ => .error rfl) fun _ => .ite (fun _ => .error rfl) fun _ => ih _
  exact each _ _

end Generators

namespace RangeParameters

theorem ofBitLength_eq_ok_iff {bits : UInt64} {range : RangeParameters} :
    ofBitLength bits = .ok range ↔
      bits.toNat ∈ RangeProof.bitLengths ∧ range = ⟨bits, UInt64.ofNat bits.toNat.log2⟩ := by
  unfold ofBitLength
  split
  · next supported =>
    exact ⟨fun made => ⟨supported, (Except.ok.inj made).symm⟩, fun h => congrArg _ h.2.symm⟩
  · next unsupported => exact iff_of_false nofun fun h => unsupported h.1

/-- Range parameters pass their check if the bit length is supported and the rounds are its logarithm. -/
theorem check_eq_ok_iff {range : RangeParameters} :
    range.check = .ok () ↔ range.bitLength.toNat ∈ RangeProof.bitLengths ∧
      Nat.pow 2 range.rounds.toNat = range.bitLength.toNat := by
  have powers : ∀ bits ∈ RangeProof.bitLengths,
      Nat.pow 2 (UInt64.ofNat bits.log2).toNat = bits := by decide
  simp only [check, Outcome.bind_eq_ok_iff, ofBitLength_eq_ok_iff, Outcome.guard_eq_ok_iff, ne_eq,
    not_not]
  constructor
  · rintro ⟨expected, ⟨supported, rfl⟩, same, -⟩
    exact ⟨supported, same ▸ powers _ supported⟩
  · rintro ⟨supported, power⟩
    refine ⟨_, ⟨supported, rfl⟩, ?_, rfl⟩
    have log : range.bitLength.toNat.log2 = range.rounds.toNat := power ▸ Nat.log2_two_pow
    rw [log, UInt64.ofNat_toNat]

theorem check_failsOnly (range : RangeParameters) : range.check.FailsOnly (· = .setup) := by
  refine .bind ?_ fun _ _ => .guard rfl (.ok ())
  exact .ite (fun _ => .ok _) fun _ => .error rfl

end RangeParameters

namespace PublicParameters

/-- Parameters as they should be. -/
structure WellFormed (pp : PublicParameters P) : Prop where
  label : pp.label = parametersLabel
  proper : PointGroup.zero ∉ pp.generators.toList
  distinct : pp.generators.toList.Nodup
  bitLength : pp.bitLength ∈ [8, 16, 32, 64]
  /-- The number of rounds is the base-2 logarithm of the bit length. -/
  rounds : Nat.pow 2 pp.range.rounds.toNat = pp.bitLength
  issuers : ∀ identity ∈ pp.issuers, identity.isNone = false
  auditors : ∀ identity ∈ pp.auditors, identity.isNone = false

theorem check_eq_ok_iff {pp : PublicParameters P} : pp.check = .ok () ↔ pp.WellFormed := by
  simp only [check, Outcome.guard_bind_eq_ok_iff, Outcome.check_bind_eq_ok_iff,
    Outcome.guard_eq_ok_iff, Generators.check_eq_ok_iff, RangeParameters.check_eq_ok_iff,
    List.any_append, Bool.or_eq_true, List.any_eq_true, not_or, not_exists, not_and, ne_eq, not_not,
    Bool.not_eq_true]
  constructor
  · rintro ⟨label, ⟨proper, distinct⟩, ⟨bitLength, rounds⟩, ⟨issuers, auditors⟩, -⟩
    exact ⟨label, proper, distinct, bitLength, rounds, issuers, auditors⟩
  · rintro ⟨label, proper, distinct, bitLength, rounds, issuers, auditors⟩
    exact ⟨label, ⟨proper, distinct⟩, ⟨bitLength, rounds⟩, ⟨issuers, auditors⟩, rfl⟩

theorem check_failsOnly (pp : PublicParameters P) : pp.check.FailsOnly (· = .setup) :=
  .guard_bind rfl <| .bind pp.generators.check_failsOnly fun _ _ =>
    .bind pp.range.check_failsOnly fun _ _ => .guard rfl (.ok ())

/-- Parameters are taken as they are when they are well formed and can be written. -/
theorem vet_eq_ok_iff_wellFormed {pp pp' : PublicParameters P} :
    pp.vet = .ok pp' ↔ pp.WellFormed ∧ pp.serialize = .ok pp.toBytes ∧ pp = pp' := by
  have writes : pp.serialize = .ok pp.toBytes ↔ pp.toBytes.length ≤ Wire.sizeLimit :=
    write_eq_ok_iff.trans (and_iff_right rfl)
  rw [vet_eq_ok_iff, check_eq_ok_iff, writes]

/-- Parameters that are not taken are not set up well, or they are but cannot be written. -/
theorem kind_of_vet_eq_error {pp : PublicParameters P} {e : Error} (refused : pp.vet = .error e) :
    e.kind = .setup ∨
      pp.WellFormed ∧ Wire.sizeLimit < pp.toBytes.length ∧ e = .ofWire .sizeLimit := by
  unfold vet at refused
  cases checked : pp.check with
  | error e' =>
    rw [checked] at refused
    cases refused
    exact .inl (pp.check_failsOnly e checked)
  | ok _ =>
    rw [checked] at refused
    by_cases short : pp.toBytes.length ≤ Wire.sizeLimit
    · have written : pp.serialize = .ok pp.toBytes := write_eq_ok_iff.mpr ⟨rfl, short⟩
      rw [written] at refused
      cases refused
    · have written : pp.serialize = .error (.ofWire .sizeLimit) := if_neg short
      rw [written] at refused
      cases refused
      exact .inr ⟨check_eq_ok_iff.mp checked, Nat.lt_of_not_le short, rfl⟩

/-- Well-formed parameters that are over the size limit are malformed input. -/
theorem WellFormed.vet_eq_error {pp : PublicParameters P} (wellFormed : pp.WellFormed)
    (long : Wire.sizeLimit < pp.toBytes.length) : pp.vet = .error (.ofWire .sizeLimit) := by
  have written : pp.serialize = .error (.ofWire .sizeLimit) := if_neg (Nat.not_le_of_lt long)
  unfold vet
  rw [check_eq_ok_iff.mpr wellFormed, written]
  rfl

theorem ofBitLength_wellFormed {bits : UInt64} {issuers auditors : List Identity}
    {pp : PublicParameters P} (made : ofBitLength bits issuers auditors = .ok pp) :
    pp.WellFormed ∧ pp.serialize = .ok pp.toBytes := by
  obtain ⟨_, -, made⟩ := Outcome.bind_eq_ok_iff.mp made
  obtain ⟨wellFormed, written, rfl⟩ := vet_eq_ok_iff_wellFormed.mp made
  exact ⟨wellFormed, written⟩

/-- What the identifier is the digest of. -/
def digested (pp : PublicParameters P) : Bytes :=
  Bytes.ofText parametersLabel ++ Bytes.littleEndian 8 pp.toBytes.length ++ pp.toBytes

/-- Identifiers are equal if the digests are. -/
theorem identifier_eq_iff {pp pp' : PublicParameters P} :
    pp.identifier = pp'.identifier ↔ Hash.sha256 pp.digested = Hash.sha256 pp'.digested :=
  Bytes.hex_injective.eq_iff

theorem digested_eq_iff {pp pp' : PublicParameters P} :
    pp.digested = pp'.digested ↔ pp.toBytes = pp'.toBytes := by
  unfold digested
  refine ⟨fun same => ?_, fun same => by rw [same]⟩
  have lengths (bytes bytes' : Bytes) :
      (Bytes.ofText parametersLabel ++ Bytes.littleEndian 8 bytes.length).length =
        (Bytes.ofText parametersLabel ++ Bytes.littleEndian 8 bytes'.length).length := by
    simp only [List.length_append, Bytes.length_littleEndian]
  exact (List.append_inj same (lengths _ _)).2

end PublicParameters

end

/-! ## What is read -/

/-- Lists of identities that are read can be written: so many identities, and so long. -/
theorem Identity.ensures_list_fits : Identity.codec.list.Ensures fun identities =>
    identities.length < lengthBound ∧ ∀ identity ∈ identities, identity.Fits := by
  intro bytes identities rest read
  obtain ⟨after, counted, all⟩ := decode_list_eq_ok_iff.mp read
  exact ⟨ensures_length counted, Identity.ensures_fits.of_readsAll all⟩

namespace PublicParameters

variable {P : Type} [PointGroup P] [PointGroup.LawfulEncoding P] {pp pp' : PublicParameters P}
  {bytes : Bytes}

omit [PointGroup.LawfulEncoding P] in
/-- The lengths in parameters that are read are ones that can be written. -/
theorem WellFormed.fits_of_read (wellFormed : pp.WellFormed)
    (read : codec.read bytes = .ok pp) : pp.Fits := by
  have lists : codec.Ensures fun pp : PublicParameters P =>
      (pp.issuers.length < lengthBound ∧ ∀ identity ∈ pp.issuers, identity.Fits) ∧
      (pp.auditors.length < lengthBound ∧ ∀ identity ∈ pp.auditors, identity.Fits) :=
    .via <| Ensures.mono (.pair (ensures_true _) <| .pair (ensures_true _) <| .pair (ensures_true _) <|
      .pair (ensures_true _) <| .pair Identity.ensures_list_fits Identity.ensures_list_fits)
      fun _ h => h.2.2.2.2
  obtain ⟨issuers, auditors⟩ := lists.of_read read
  exact ⟨wellFormed.label ▸ by decide, issuers, auditors⟩

theorem WellFormed.fits (wellFormed : pp.WellFormed) (short : pp.toBytes.length < lengthBound) :
    pp.Fits :=
  wellFormed.fits_of_read (faithful.roundTrips short).read_encode

/-- Bytes that are decoded as well-formed parameters are their bytes. -/
theorem WellFormed.read_iff (wellFormed : pp.WellFormed) :
    codec.read bytes = .ok pp ↔ pp.Fits ∧ pp.toBytes = bytes := by
  constructor
  · intro read
    exact ⟨wellFormed.fits_of_read read, faithful.exact.encode_of_read read⟩
  · rintro ⟨fits, rfl⟩
    exact (roundTrips fits).read_encode

/-- Bytes are read as parameters exactly if the parameters are well formed and are written as these
bytes. -/
theorem ofBytes_eq_ok_iff : ofBytes bytes = .ok pp ↔ pp.WellFormed ∧ pp.serialize = .ok bytes := by
  simp only [ofBytes, Outcome.bind_eq_ok_iff, Outcome.inContext_eq_ok_iff,
    Outcome.mapError_eq_ok_iff, vet_eq_ok_iff_wellFormed]
  constructor
  · rintro ⟨_, read, wellFormed, written, rfl⟩
    obtain ⟨-, rfl⟩ := wellFormed.read_iff.mp read
    exact ⟨wellFormed, written⟩
  · rintro ⟨wellFormed, written⟩
    obtain ⟨rfl, short⟩ := write_eq_ok_iff.mp written
    exact ⟨pp, wellFormed.read_iff.mpr ⟨wellFormed.fits (lt_lengthBound short), rfl⟩, wellFormed,
      written, rfl⟩

/-- Bytes that are refused are no parameters that are set up well, or they are the bytes of such and over
the size limit. -/
theorem kind_of_ofBytes_eq_error {e : Error}
    (refused : (ofBytes bytes : Outcome (PublicParameters P)) = .error e) :
    e.kind = .setup ∨ e = .ofWire .sizeLimit ∧ Wire.sizeLimit < bytes.length ∧
      ∃ pp : PublicParameters P, pp.WellFormed ∧ pp.Fits ∧ pp.toBytes = bytes := by
  unfold ofBytes at refused
  cases read : (codec.read bytes : Outcome (PublicParameters P)) with
  | error e' =>
    rw [read] at refused
    cases refused
    exact .inl rfl
  | ok pp =>
    rw [read] at refused
    rcases kind_of_vet_eq_error refused with setup | ⟨wellFormed, long, rfl⟩
    · exact .inl setup
    · obtain ⟨fits, rfl⟩ := wellFormed.read_iff.mp read
      exact .inr ⟨rfl, long, pp, wellFormed, fits, rfl⟩

omit [PointGroup.LawfulEncoding P] in
/-- The bytes of parameters hold those of each issuer. -/
theorem length_issuer_lt {identity : Identity} (mem : identity ∈ pp.issuers) :
    identity.bytes.length < pp.toBytes.length := by
  have listed : (Identity.codec.encode identity).length ≤
      (Identity.codec.list.encode pp.issuers).length := length_encode_le_of_mem mem
  have issuers : Identity.codec.list.encode pp.issuers <:+: pp.toBytes := by
    refine ⟨text.encode pp.label ++ (choice [CurveName.ristretto255]).encode pp.curve ++
      Generators.codec.encode pp.generators ++ RangeParameters.codec.encode pp.range,
      Identity.codec.list.encode pp.auditors, ?_⟩
    simp only [List.append_assoc]
    rfl
  rw [Identity.length_encode] at listed
  have within := issuers.length_le
  omega

theorem toBytes_inj (fits : pp.Fits) (fits' : pp'.Fits) : pp.toBytes = pp'.toBytes ↔ pp = pp' := by
  refine ⟨fun same => ?_, fun same => same ▸ rfl⟩
  have read := (roundTrips fits).read_encode
  have read' := (roundTrips fits').read_encode
  exact Except.ok.inj (read.symm.trans ((congrArg codec.read same).trans read'))

/-- Different parameters with one identifier are a collision of the digest. -/
theorem eq_or_collision (fits : pp.Fits) (fits' : pp'.Fits) (same : pp.identifier = pp'.identifier) :
    pp = pp' ∨ pp.digested ≠ pp'.digested ∧ Hash.sha256 pp.digested = Hash.sha256 pp'.digested := by
  by_cases equal : pp.digested = pp'.digested
  · exact .inl ((toBytes_inj fits fits').mp (digested_eq_iff.mp equal))
  · exact .inr ⟨equal, identifier_eq_iff.mp same⟩

/-- Bytes are read as parameters exactly if the parameters are well formed and are written as these bytes,
and what is set up is like that. Parameters that are read are written as the bytes that they were read
from, and pass their check. Equal parameters, and no others, have equal bytes; they have equal
identifiers, and others do only if the digest has a collision. A failure to read parameters is one to set
up, but for well-formed parameters that are over the size limit: they are malformed input. -/
theorem ofBytes_canonical (P : Type) [PointGroup P] [PointGroup.LawfulEncoding P] :
    (∀ (bytes : Bytes) (pp : PublicParameters P),
      ofBytes bytes = .ok pp ↔ pp.WellFormed ∧ pp.serialize = .ok bytes) ∧
    (∀ bits issuers auditors (pp : PublicParameters P), ofBitLength bits issuers auditors = .ok pp →
      pp.WellFormed ∧ pp.serialize = .ok pp.toBytes) ∧
    (∀ (bytes : Bytes) (pp : PublicParameters P), ofBytes bytes = .ok pp →
      pp.toBytes = bytes ∧ pp.serialize = .ok bytes ∧ pp.check = .ok ()) ∧
    (∀ pp pp' : PublicParameters P, pp.Fits → pp'.Fits → (pp.toBytes = pp'.toBytes ↔ pp = pp') ∧
      (pp = pp' → pp.identifier = pp'.identifier) ∧ (pp.identifier = pp'.identifier → pp = pp' ∨
        pp.digested ≠ pp'.digested ∧ Hash.sha256 pp.digested = Hash.sha256 pp'.digested)) ∧
    (∀ (bytes : Bytes) e, (ofBytes bytes : Outcome (PublicParameters P)) = .error e →
      e.kind = .setup ∨ e = .ofWire .sizeLimit ∧ Wire.sizeLimit < bytes.length ∧
        ∃ pp : PublicParameters P, pp.WellFormed ∧ pp.Fits ∧ pp.toBytes = bytes) ∧
    ∀ pp : PublicParameters P, pp.WellFormed → pp.Fits → Wire.sizeLimit < pp.toBytes.length →
      (ofBytes pp.toBytes : Outcome (PublicParameters P)) = .error (.ofWire .sizeLimit) := by
  refine ⟨fun _ _ => ofBytes_eq_ok_iff, fun _ _ _ _ => ofBitLength_wellFormed,
    fun bytes pp read => ?_, fun pp pp' fits fits' => ?_, fun _ _ => kind_of_ofBytes_eq_error,
    fun pp wellFormed fits long => ?_⟩
  · obtain ⟨wellFormed, written⟩ := ofBytes_eq_ok_iff.mp read
    exact ⟨(write_eq_ok_iff.mp written).1, written, check_eq_ok_iff.mpr wellFormed⟩
  · exact ⟨toBytes_inj fits fits', congrArg identifier, eq_or_collision fits fits'⟩
  · exact (ofBytes_toBytes fits).trans (wellFormed.vet_eq_error long)

end PublicParameters

namespace Plain

theorem fits_parameters : parameters.Fits :=
  ⟨by decide, ⟨by decide, nofun⟩, ⟨by decide, nofun⟩⟩

theorem fits_governed : governed.Fits :=
  ⟨by decide, ⟨by decide, List.forall_mem_singleton.mpr swap_fits.sender⟩,
    ⟨by decide, List.forall_mem_singleton.mpr swap_fits.recipient⟩⟩

theorem wellFormed_parameters : parameters.WellFormed := PublicParameters.check_eq_ok_iff.mp (by decide)

set_option maxRecDepth 2048 in
/-- The parameters of the swap are read back and written; with an issuer and an auditor they have other
bytes; and no bytes at all are a failure to set up. -/
theorem parameters_canonical :
    PublicParameters.ofBytes parameters.toBytes = .ok parameters ∧
    parameters.serialize = .ok parameters.toBytes ∧
    governed.toBytes ≠ parameters.toBytes ∧
    ∃ e, (PublicParameters.ofBytes [] : Outcome (PublicParameters Plain)) = .error e ∧
      e.kind = .setup := by
  obtain ⟨reads, -, written, equal, fails, -⟩ := PublicParameters.ofBytes_canonical Plain
  have short : parameters.serialize = .ok parameters.toBytes :=
    write_eq_ok_iff.mpr ⟨rfl, by decide⟩
  have read := (reads _ _).mpr ⟨wellFormed_parameters, short⟩
  refine ⟨read, (written _ _ read).2.1, fun same => ?_, ⟨_, rfl, ?_⟩⟩
  · have issuers := congrArg PublicParameters.issuers
      ((equal _ _ fits_governed fits_parameters).1.mp same)
    exact List.cons_ne_nil _ _ issuers
  · exact (fails [] _ rfl).resolve_right fun ⟨_, long, _⟩ => Nat.not_lt_zero _ long

/-- Parameters with an issuer whose identity alone is as long as the size limit. -/
def longParameters : PublicParameters Plain :=
  { parameters with issuers := [⟨List.replicate Wire.sizeLimit 1⟩] }

/-- These parameters are well formed. Yet their bytes are refused, and not by a failure to set up. -/
theorem longParameters_refused :
    longParameters.WellFormed ∧
    ∃ e, (PublicParameters.ofBytes longParameters.toBytes : Outcome (PublicParameters Plain)) =
      .error e ∧ e.kind ≠ .setup := by
  have somebody : Identity.isNone ⟨List.replicate Wire.sizeLimit 1⟩ = false := by
    rw [Identity.isNone, List.isEmpty_replicate]
    decide
  have wellFormed : longParameters.WellFormed :=
    { wellFormed_parameters with issuers := List.forall_mem_singleton.mpr somebody }
  have fits : longParameters.Fits := by
    refine { fits_parameters with issuers := ⟨by decide, List.forall_mem_singleton.mpr ?_⟩ }
    show (List.replicate Wire.sizeLimit (1 : UInt8)).length < Wire.lengthBound
    rw [List.length_replicate]
    decide
  have long : Wire.sizeLimit < longParameters.toBytes.length := by
    have listed : (⟨List.replicate Wire.sizeLimit 1⟩ : Identity) ∈ longParameters.issuers :=
      List.mem_singleton_self _
    have within := PublicParameters.length_issuer_lt listed
    rwa [List.length_replicate] at within
  refine ⟨wellFormed, .ofWire .sizeLimit, ?_, show ErrorKind.malformed ≠ .setup by decide⟩
  exact (PublicParameters.ofBytes_toBytes fits).trans (wellFormed.vet_eq_error long)

end Plain

end ConfidentialToken
