import ConfidentialToken.Audit
import ConfidentialToken.Proofs.Positions
import ConfidentialToken.Proofs.Wire.Identities

/-!
# Owners and what is told about them

Audit info describes an owner when what it says is what the raw identity shows or hides: the enrollment
id, or values that open the pseudonym. A script is described by the audit infos of its two parties,
which are plain. The description is stated here apart from the matchers, and the auditor's inspection of
owners is shown to succeed exactly on owners that are described.
-/

namespace ConfidentialToken

/-! ## Descriptions -/

/-- What is told of a party is true of its raw identity: the enrollment id is the one that is shown, or
the told values open the pseudonym. Nothing can be told so of a script. -/
inductive AuditInfo.TrueOf (P : Type) [PointGroup P] (told : AuditInfo) :
    IdentityKind → Identity → Prop where
  | x509 {raw : Identity} {shown : X509Identity} :
    X509Identity.codec.read raw.bytes = .ok shown → shown.enrollmentId = told.enrollmentId →
    TrueOf P told .x509 raw
  | idemix {raw : Identity} {hidden : IdemixIdentity P} {blinding : Scalar} :
    IdemixIdentity.codec.read raw.bytes = .ok hidden → told.pseudonymBlinding = some blinding →
    hidden.pseudonym = pseudonym told.enrollmentId told.revocationHandle blinding →
    TrueOf P told .idemix raw

/-- Audit info describes a party of a plain kind: both can be read, and what is told is true. -/
def Identity.PartyDescribedBy (P : Type) [PointGroup P] (party : Identity) (info : Bytes) : Prop :=
  ∃ typed kind told, TypedIdentity.parse party = .ok typed ∧ typed.kind = .ok kind ∧
    AuditInfo.ofBytes info = .ok told ∧ told.TrueOf P kind typed.identity

/-- Audit info describes an owner: there is some, and it describes a plain party or both parties of a
script. -/
inductive Identity.DescribedBy (P : Type) [PointGroup P] (owner : Identity) (info : Bytes) : Prop where
  | plain : info ≠ [] → owner.PartyDescribedBy P info → DescribedBy P owner info
  | script {script : Script} {parties : ScriptInfo} : info ≠ [] →
    Script.ofIdentity owner = .ok script → ScriptInfo.ofBytes info = .ok parties →
    script.sender.PartyDescribedBy P parties.sender →
    script.recipient.PartyDescribedBy P parties.recipient → DescribedBy P owner info

variable {P : Type} [PointGroup P]

/-- Nobody cannot be read. -/
theorem TypedIdentity.isNone_of_parse {identity : Identity} {typed : TypedIdentity}
    (read : parse identity = .ok typed) : identity.isNone = false := by
  obtain ⟨bytes⟩ := identity
  cases bytes with
  | nil => cases read
  | cons byte bytes => rfl

theorem Script.ofTyped_eq_ok_iff {typed : TypedIdentity} {script : Script} :
    ofTyped typed = .ok script ↔
      typed.kind = .ok .script ∧ codec.read typed.identity.bytes = .ok script := by
  simp only [ofTyped, Outcome.bind_eq_ok_iff, Outcome.guard_bind_eq_ok_iff,
    Outcome.inContext_eq_ok_iff, ne_eq, not_not]
  constructor
  · rintro ⟨kind, isKind, rfl, read⟩
    exact ⟨isKind, read⟩
  · rintro ⟨isKind, read⟩
    exact ⟨_, isKind, rfl, read⟩

/-- The audit info of a credential that shows its enrollment id describes its identity. -/
theorem Credential.x509_describedBy {P : Type} [Suite P] {enrollmentId : String} {seed : Block 32}
    {handle : Bytes} (id : (Bytes.ofText enrollmentId).length < Wire.lengthBound)
    (handleFits : handle.length < Wire.lengthBound)
    (fits : Identity.Fits ⟨X509Identity.codec.encode ⟨enrollmentId, Suite.publicKey P seed⟩⟩) :
    (x509 P enrollmentId seed handle).identity.PartyDescribedBy P
      (x509 P enrollmentId seed handle).auditInfo :=
  ⟨_, .x509, _, TypedIdentity.parse_wrap .x509 fits, rfl, AuditInfo.ofBytes_encode id handleFits,
    .x509 (X509Identity.roundTrips id).read_encode rfl⟩

/-! ## Matchers -/

namespace OwnerMatcher

theorem accept_enrollmentId_eq_ok_iff {id : String} {raw : Identity} :
    (enrollmentId id).accept P raw = .ok () ↔
      ∃ shown, X509Identity.codec.read raw.bytes = .ok shown ∧ shown.enrollmentId = id := by
  simp only [accept, Outcome.bind_eq_ok_iff, Outcome.inContext_eq_ok_iff,
    Outcome.mapError_eq_ok_iff, Outcome.guard_eq_ok_iff, ne_eq, not_not]
  exact exists_congr fun _ => and_congr_right fun _ => and_iff_left rfl

theorem accept_pseudonym_eq_ok_iff {id : String} {handle : Bytes} {blinding : Scalar}
    {raw : Identity} :
    (pseudonym id handle blinding).accept P raw = .ok () ↔
      ∃ hidden : IdemixIdentity P, IdemixIdentity.codec.read raw.bytes = .ok hidden ∧
        hidden.pseudonym = ConfidentialToken.pseudonym id handle blinding := by
  simp only [accept, Outcome.bind_eq_ok_iff, Outcome.inContext_eq_ok_iff,
    Outcome.mapError_eq_ok_iff, Outcome.guard_eq_ok_iff, ne_eq, not_not]
  exact exists_congr fun _ => and_congr_right fun _ => and_iff_left rfl

/-- The matcher of a party accepts its raw identity exactly when the audit info describes the party. -/
theorem exists_accept_iff {party : Identity} {info : Bytes} {typed : TypedIdentity}
    (read : TypedIdentity.parse party = .ok typed) :
    (∃ matcher, ofAuditInfo party info = .ok matcher ∧ matcher.accept P typed.identity = .ok ()) ↔
      party.PartyDescribedBy P info := by
  simp only [ofAuditInfo, read, Outcome.bind_eq_ok_iff, Except.ok.injEq, exists_eq_left']
  constructor
  · rintro ⟨matcher, ⟨kind, isKind, made⟩, accepted⟩
    cases kind with
    | x509 =>
      obtain ⟨told, isTold, made⟩ := Outcome.bind_eq_ok_iff.mp made
      cases made
      obtain ⟨shown, isShown, same⟩ := accept_enrollmentId_eq_ok_iff.mp accepted
      exact ⟨typed, _, told, read, isKind, isTold, .x509 isShown same⟩
    | idemix =>
      obtain ⟨told, isTold, made⟩ := Outcome.bind_eq_ok_iff.mp made
      split at made
      · next isBlinding =>
        cases made
        obtain ⟨hidden, isHidden, same⟩ := accept_pseudonym_eq_ok_iff.mp accepted
        exact ⟨typed, _, told, read, isKind, isTold, .idemix isHidden isBlinding same⟩
      · cases made
    | script => cases made
  · rintro ⟨typed', kind, told, reads, isKind, isTold, trueOf⟩
    obtain rfl : typed = typed' := Except.ok.inj (read.symm.trans reads)
    cases trueOf with
    | x509 isShown same =>
      refine ⟨enrollmentId told.enrollmentId, ⟨_, isKind, ?_⟩,
        accept_enrollmentId_eq_ok_iff.mpr ⟨_, isShown, same⟩⟩
      exact Outcome.bind_eq_ok_iff.mpr ⟨told, isTold, rfl⟩
    | idemix isHidden isBlinding same =>
      refine ⟨pseudonym told.enrollmentId told.revocationHandle _, ⟨_, isKind, ?_⟩,
        accept_pseudonym_eq_ok_iff.mpr ⟨_, isHidden, same⟩⟩
      refine Outcome.bind_eq_ok_iff.mpr ⟨told, isTold, ?_⟩
      simp only [isBlinding]
      rfl

end OwnerMatcher

/-! ## Inspections -/

namespace Auditor

theorem inspectParty_eq_ok_iff {role : String} {index : Nat} {party : Identity} {info : Bytes} :
    inspectParty (P := P) role index party info = .ok () ↔ party.PartyDescribedBy P info := by
  simp only [inspectParty, Outcome.bind_eq_ok_iff, Outcome.inContext_eq_ok_iff]
  constructor
  · rintro ⟨typed, read, found⟩
    exact (OwnerMatcher.exists_accept_iff read).mp found
  · intro described
    obtain ⟨typed, -, -, read, -⟩ := id described
    exact ⟨typed, read, (OwnerMatcher.exists_accept_iff read).mpr described⟩

theorem inspectScript_eq_ok_iff {token : AuditableToken P} {index : Nat} :
    inspectScript token index = .ok () ↔ ∃ script parties,
      Script.ofIdentity token.token.owner = .ok script ∧
      ScriptInfo.ofBytes token.ownerInfo = .ok parties ∧
      script.sender.PartyDescribedBy P parties.sender ∧
      script.recipient.PartyDescribedBy P parties.recipient := by
  simp only [inspectScript, Outcome.bind_eq_ok_iff, Outcome.inContext_eq_ok_iff,
    inspectParty_eq_ok_iff]
  constructor
  · rintro ⟨script, isScript, parties, isParties, ⟨⟩, sender, recipient⟩
    exact ⟨script, parties, isScript, isParties, inspectParty_eq_ok_iff.mp sender, recipient⟩
  · rintro ⟨script, parties, isScript, isParties, sender, recipient⟩
    exact ⟨script, isScript, parties, isParties, ⟨⟩, inspectParty_eq_ok_iff.mpr sender, recipient⟩

/-- The inspection of a plain owner matches it as that of a party does. -/
theorem exists_accept_inContext_iff {owner : Identity} {info : Bytes} {typed : TypedIdentity}
    {c d : String} (read : TypedIdentity.parse owner = .ok typed) :
    ((OwnerMatcher.ofAuditInfo owner info).inContext c >>= fun matcher =>
      (matcher.accept P typed.identity).inContext d) = .ok () ↔ owner.PartyDescribedBy P info := by
  simp only [Outcome.bind_eq_ok_iff, Outcome.inContext_eq_ok_iff]
  exact OwnerMatcher.exists_accept_iff read

/-- An inspection of an owner succeeds exactly when the owner is described. -/
theorem inspectOwner_eq_ok_iff {token : AuditableToken P} {index : Nat} :
    inspectOwner token index = .ok () ↔
      token.token.owner.DescribedBy P token.ownerInfo := by
  simp only [inspectOwner, Outcome.bind_eq_ok_iff, Outcome.guard_bind_eq_ok_iff,
    Outcome.inContext_eq_ok_iff, Token.isRedeemed, Bool.not_eq_true]
  constructor
  · rintro ⟨owned, told, typed, read, kind, isKind, found⟩
    cases kind with
    | script =>
      obtain ⟨script, parties, isScript, isParties, sender, recipient⟩ :=
        inspectScript_eq_ok_iff.mp found
      exact .script told isScript isParties sender recipient
    | x509 => exact .plain told ((exists_accept_inContext_iff read).mp found)
    | idemix => exact .plain told ((exists_accept_inContext_iff read).mp found)
  · intro described
    cases described with
    | plain told described =>
      obtain ⟨typed, kind, _, read, isKind, -, trueOf⟩ := id described
      refine ⟨TypedIdentity.isNone_of_parse read, told, typed, read, kind, isKind, ?_⟩
      cases trueOf with
      | x509 => exact (exists_accept_inContext_iff read).mpr described
      | idemix => exact (exists_accept_inContext_iff read).mpr described
    | script told isScript isParties sender recipient =>
      obtain ⟨typed, read, isTyped⟩ := Outcome.bind_eq_ok_iff.mp isScript
      obtain ⟨isKind, -⟩ := Script.ofTyped_eq_ok_iff.mp isTyped
      refine ⟨TypedIdentity.isNone_of_parse read, told, typed, read, .script, isKind, ?_⟩
      exact inspectScript_eq_ok_iff.mpr ⟨_, _, isScript, isParties, sender, recipient⟩

end Auditor

end ConfidentialToken
