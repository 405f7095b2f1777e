import ConfidentialToken.Parameters
import ConfidentialToken.Proofs.Task
import ConfidentialToken.Proofs.Wire.Objects

/-!
# Parameters that are made

Public parameters come to be in three ways, and in all of them the bit length is one that range proofs
support. Parameters that pass their check and are short enough to be written can be made: they are read
back from their bytes.
-/

namespace ConfidentialToken

/-- Range parameters that pass their check have a bit length that is supported. -/
theorem RangeParameters.bitLength_mem {range : RangeParameters}
    (checked : range.check = .ok ()) : range.bitLength.toNat ∈ RangeProof.bitLengths := by
  unfold RangeParameters.check at checked
  obtain ⟨_, expected, -⟩ := Outcome.bind_eq_ok_iff.mp checked
  unfold RangeParameters.ofBitLength at expected
  split at expected
  · assumption
  · cases expected

namespace PublicParameters

variable {P : Type} [PointGroup P]

/-- The ways to make parameters: for a bit length, from bytes, and by default. -/
inductive Made : PublicParameters P → Prop where
  | ofBitLength {bits : UInt64} {issuers auditors : List Identity} {pp : PublicParameters P} :
    ofBitLength bits issuers auditors = .ok pp → Made pp
  | ofBytes {bytes : Bytes} {pp : PublicParameters P} : ofBytes bytes = .ok pp → Made pp
  | default : Made default

/-- Parameters are taken when they pass their check and can be written. -/
theorem vet_eq_ok_iff {pp pp' : PublicParameters P} : pp.vet = .ok pp' ↔
    pp.check = .ok () ∧ pp.toBytes.length ≤ Wire.sizeLimit ∧ pp = pp' := by
  unfold vet
  rw [Outcome.check_bind_eq_ok_iff, Outcome.bind_eq_ok_iff]
  refine and_congr_right fun _ => ?_
  constructor
  · rintro ⟨_, written, ⟨⟩⟩
    obtain ⟨rfl, short⟩ := Wire.Codec.write_eq_ok_iff.mp written
    exact ⟨short, rfl⟩
  · rintro ⟨short, rfl⟩
    exact ⟨pp.toBytes, Wire.Codec.write_eq_ok_iff.mpr ⟨rfl, short⟩, rfl⟩

theorem check_range {pp : PublicParameters P} (checked : pp.check = .ok ()) :
    pp.range.check = .ok () := by
  simp only [check, Outcome.guard_bind_eq_ok_iff, Outcome.check_bind_eq_ok_iff] at checked
  exact checked.2.2.1

/-- Parameters that were made support their bit length. -/
theorem Made.bitLength_mem {pp : PublicParameters P} (made : pp.Made) :
    pp.bitLength ∈ RangeProof.bitLengths := by
  refine RangeParameters.bitLength_mem ?_
  cases made with
  | ofBitLength made =>
    obtain ⟨_, -, made⟩ := Outcome.bind_eq_ok_iff.mp made
    obtain ⟨checked, -, rfl⟩ := vet_eq_ok_iff.mp made
    exact check_range checked
  | ofBytes made =>
    obtain ⟨_, -, made⟩ := Outcome.bind_eq_ok_iff.mp made
    obtain ⟨checked, -, rfl⟩ := vet_eq_ok_iff.mp made
    exact check_range checked
  | default =>
    show RangeParameters.check ⟨64, 6⟩ = .ok ()
    decide

/-- So values have 64 bits at the most. -/
theorem Made.bitLength_le {pp : PublicParameters P} (made : pp.Made) : pp.bitLength ≤ 64 := by
  have supported : ∀ bits ∈ RangeProof.bitLengths, bits ≤ 64 := by decide
  exact supported _ made.bitLength_mem

end PublicParameters

/-! ## Reading parameters -/

section

variable {P : Type} [PointGroup P] [PointGroup.LawfulEncoding P]

open Wire (lengthBound)
open Wire.Codec

theorem Generators.roundTrips (g : Generators P) : Generators.codec.RoundTrips g :=
  .via rfl (.pair (roundTrips_point _ _) (.pair (roundTrips_point _ _) (roundTrips_point _ _)))

theorem RangeParameters.roundTrips (range : RangeParameters) :
    RangeParameters.codec.RoundTrips range :=
  .via rfl (.pair (roundTrips_u64 _) (roundTrips_u64 _))

/-- Whether the lengths in parameters can be written. -/
structure PublicParameters.Fits (pp : PublicParameters P) : Prop where
  label : (Bytes.ofText pp.label).length < lengthBound
  issuers : pp.issuers.length < lengthBound ∧ ∀ identity ∈ pp.issuers, identity.Fits
  auditors : pp.auditors.length < lengthBound ∧ ∀ identity ∈ pp.auditors, identity.Fits

theorem PublicParameters.roundTrips {pp : PublicParameters P} (fits : pp.Fits) :
    codec.RoundTrips pp := by
  have identities {list : List Identity} (short : list.length < lengthBound)
      (each : ∀ identity ∈ list, identity.Fits) : Identity.codec.list.RoundTrips list :=
    .list short fun identity mem => Identity.roundTrips (each identity mem)
  have curve : (choice [CurveName.ristretto255]).RoundTrips pp.curve := by
    cases pp.curve
    exact roundTrips_choice List.mem_cons_self (by decide)
  exact .via rfl (.pair (roundTrips_text fits.label) (.pair curve (.pair (Generators.roundTrips _)
    (.pair (RangeParameters.roundTrips _) (.pair (identities fits.issuers.1 fits.issuers.2)
      (identities fits.auditors.1 fits.auditors.2))))))

/-- Bytes are read as parameters, whether or not these pass then. -/
theorem PublicParameters.ofBytes_toBytes {pp : PublicParameters P} (fits : pp.Fits) :
    ofBytes pp.toBytes = pp.vet := by
  unfold ofBytes toBytes
  rw [(roundTrips fits).read_encode]
  rfl

/-- Parameters that pass their check and can be written are read from their bytes. -/
theorem PublicParameters.Made.of_check {pp : PublicParameters P} (fits : pp.Fits)
    (checked : pp.check = .ok ()) (short : pp.toBytes.length ≤ Wire.sizeLimit) : Made pp :=
  .ofBytes ((ofBytes_toBytes fits).trans (vet_eq_ok_iff.mpr ⟨checked, short, rfl⟩))

end

end ConfidentialToken
