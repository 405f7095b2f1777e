import ConfidentialToken.Proofs.Wire.Objects
import ConfidentialToken.Identity.Credential

/-!
# Round trips of identities

Typed identities, the raw identities that show their enrollment id, and scripts read back from what is
written of them; so an identity that was wrapped under a kind is known to be of that kind.
-/

namespace ConfidentialToken

open Wire (lengthBound)
open Wire.Codec

/-! ## Typed identities -/

namespace IdentityKind

theorem tag_fits (kind : IdentityKind) : (Bytes.ofText kind.tag).length < lengthBound := by
  cases kind <;> decide

theorem tag_of_ofTag {tag : String} {kind : IdentityKind} (named : ofTag tag = .ok kind) :
    tag = kind.tag := by
  unfold ofTag at named
  split_ifs at named with x509 idemix script
  · exact Except.ok.inj named ▸ x509
  · exact Except.ok.inj named ▸ idemix
  · exact Except.ok.inj named ▸ script

end IdentityKind

theorem TypedIdentity.roundTrips {typed : TypedIdentity}
    (tag : (Bytes.ofText typed.tag).length < lengthBound) (fits : typed.identity.Fits) :
    TypedIdentity.codec.RoundTrips typed :=
  .via rfl (.pair (roundTrips_text tag) (Identity.roundTrips fits))

/-- A wrapped identity is unwrapped to what was wrapped. -/
theorem TypedIdentity.parse_wrap (kind : IdentityKind) {raw : Identity} (fits : raw.Fits) :
    parse (wrap kind raw) = .ok ⟨kind.tag, raw⟩ := by
  refine Outcome.inContext_eq_ok_iff.mpr ?_
  have trips : TypedIdentity.codec.RoundTrips ⟨kind.tag, raw⟩ :=
    TypedIdentity.roundTrips kind.tag_fits fits
  exact trips.read_encode

/-! ## Raw identities -/

theorem X509Identity.roundTrips {raw : X509Identity}
    (fits : (Bytes.ofText raw.enrollmentId).length < lengthBound) :
    X509Identity.codec.RoundTrips raw :=
  .via rfl (.pair (roundTrips_text fits) (roundTrips_block 32 _))

/-- The key of an identity that shows its enrollment id is the one in it. -/
theorem Identity.verifyingKey_x509 (P : Type) [Suite P] {raw : X509Identity}
    (id : (Bytes.ofText raw.enrollmentId).length < lengthBound)
    (fits : Identity.Fits ⟨X509Identity.codec.encode raw⟩) :
    (TypedIdentity.wrap .x509 ⟨X509Identity.codec.encode raw⟩).verifyingKey P =
      .ok raw.publicKey := by
  unfold verifyingKey
  rw [TypedIdentity.parse_wrap _ fits]
  have read := (X509Identity.roundTrips id).read_encode
  show ((X509Identity.codec.read (X509Identity.codec.encode raw)) >>= fun raw =>
    pure raw.publicKey) = _
  rw [read]
  rfl

/-! ## Scripts -/

theorem HashLock.roundTrips {lock : HashLock} (fits : lock.hash.length < lengthBound) :
    HashLock.codec.RoundTrips lock := by
  refine .via rfl (.pair (roundTrips_bytes fits) (.pair ?_ ?_))
  · have listed : ∀ function : HashFunction, function ∈ [HashFunction.sha256, .sha512] := by
      intro function
      cases function <;> decide
    exact roundTrips_choice (listed _) (by decide)
  · have listed : ∀ encoding : ImageEncoding, encoding ∈ [ImageEncoding.raw, .hex] := by
      intro encoding
      cases encoding <;> decide
    exact roundTrips_choice (listed _) (by decide)

/-- Whether the lengths in a script can be written. -/
structure Script.Fits (script : Script) : Prop where
  sender : script.sender.Fits
  recipient : script.recipient.Fits
  hash : script.lock.hash.length < lengthBound
  raw : Identity.Fits ⟨Script.codec.encode script⟩

theorem Script.roundTrips {script : Script} (fits : script.Fits) : Script.codec.RoundTrips script :=
  .via rfl (.pair (Identity.roundTrips fits.sender) (.pair (Identity.roundTrips fits.recipient)
    (.pair (roundTrips_u64 _) (HashLock.roundTrips fits.hash))))

/-- A script is read back from its identity. -/
theorem Script.ofIdentity_toIdentity {script : Script} (fits : script.Fits) :
    ofIdentity script.toIdentity = .ok script := by
  unfold ofIdentity toIdentity
  rw [TypedIdentity.parse_wrap _ fits.raw]
  have read := (Script.roundTrips fits).read_encode
  show (Script.codec.read (Script.codec.encode script)).inContext _ = _
  rw [read]
  rfl

/-- The identity of a script is typed as one. -/
theorem Script.isScript_wrap (kind : IdentityKind) {raw : Identity} (fits : raw.Fits) :
    isScript (TypedIdentity.wrap kind raw) = decide (kind = .script) := by
  have tags : ∀ kind : IdentityKind,
      decide (kind.tag = IdentityKind.script.tag) = decide (kind = .script) := by
    intro kind
    cases kind <;> decide
  unfold isScript
  rw [TypedIdentity.parse_wrap kind fits]
  exact tags kind

/-! ## Audit infos -/

/-- The audit info of a party is read back from its bytes. -/
theorem AuditInfo.ofBytes_encode {info : AuditInfo}
    (id : (Bytes.ofText info.enrollmentId).length < lengthBound)
    (handle : info.revocationHandle.length < lengthBound) :
    ofBytes (codec.encode info) = .ok info := by
  have trips : codec.RoundTrips info := .via rfl (.pair (roundTrips_text id)
    (.pair (roundTrips_bytes handle) (.option fun _ _ => roundTrips_scalar _)))
  exact Outcome.inContext_eq_ok_iff.mpr trips.read_encode

/-- The audit infos of the parties of a script are read back from their bytes. -/
theorem ScriptInfo.ofBytes_toBytes {info : ScriptInfo} (sender : info.sender.length < lengthBound)
    (recipient : info.recipient.length < lengthBound) : ofBytes info.toBytes = .ok info := by
  have trips : codec.RoundTrips info :=
    .via rfl (.pair (roundTrips_bytes sender) (roundTrips_bytes recipient))
  exact Outcome.inContext_eq_ok_iff.mpr trips.read_encode

end ConfidentialToken
