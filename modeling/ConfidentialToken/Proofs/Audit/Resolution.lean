import ConfidentialToken.Proofs.Audit.Coverage
import ConfidentialToken.Proofs.Metadata.Filtering

/-!
# The id that an accepted owner is known by

The auditor matches an owner and never asks for its enrollment id; a wallet looks the id up and never
matches the identity. Both read the same bytes on ways of their own, the wallet through scripts in
scripts, the auditor through one script only. What an owner is known as is stated here from the bytes:
the id that the raw identity shows, or the one that its pseudonym is made of, and for a script that of
the recipient. Whatever owner the auditor accepts is known by an id, and a wallet finds that one.

The converse does not hold. A wallet finds an id wherever audit info tells one, also for an identity that
the info does not describe.
-/

namespace ConfidentialToken

/-! ## Known owners -/

/-- The id that a party is known by from its audit info: the one that its raw identity shows, where the
same is told; or the one told, where the pseudonym is made of it. -/
inductive Identity.PartyKnownAs (P : Type) [PointGroup P] (party : Identity) (info : Bytes) :
    String → Prop
  | x509 {typed : TypedIdentity} {told : AuditInfo} {shown : X509Identity} :
    TypedIdentity.parse party = .ok typed → typed.kind = .ok .x509 →
    AuditInfo.ofBytes info = .ok told →
    X509Identity.codec.read typed.identity.bytes = .ok shown →
    shown.enrollmentId = told.enrollmentId → PartyKnownAs P party info shown.enrollmentId
  | idemix {typed : TypedIdentity} {told : AuditInfo} {hidden : IdemixIdentity P}
    {blinding : Scalar} :
    TypedIdentity.parse party = .ok typed → typed.kind = .ok .idemix →
    AuditInfo.ofBytes info = .ok told →
    IdemixIdentity.codec.read typed.identity.bytes = .ok hidden →
    told.pseudonymBlinding = some blinding →
    hidden.pseudonym = pseudonym told.enrollmentId told.revocationHandle blinding →
    PartyKnownAs P party info told.enrollmentId

/-- The id that an owner is known by: that of a plain party, or that of the recipient of a script. The
sender of a script is known too, but its id does not count. -/
inductive Identity.KnownAs (P : Type) [PointGroup P] (owner : Identity) (info : Bytes) :
    String → Prop
  | plain {id : String} : owner.PartyKnownAs P info id → KnownAs P owner info id
  | script {script : Script} {parties : ScriptInfo} {sender id : String} :
    Script.ofIdentity owner = .ok script → ScriptInfo.ofBytes info = .ok parties →
    script.sender.PartyKnownAs P parties.sender sender →
    script.recipient.PartyKnownAs P parties.recipient id → KnownAs P owner info id

namespace Identity

variable {P : Type} [PointGroup P] {party owner : Identity} {info : Bytes} {id : String}

/-- A party that audit info describes is known by an id. -/
theorem PartyDescribedBy.exists_known (described : party.PartyDescribedBy P info) :
    ∃ id, party.PartyKnownAs P info id := by
  obtain ⟨typed, kind, told, read, isKind, isTold, trueOf⟩ := described
  cases trueOf with
  | x509 isShown same => exact ⟨_, .x509 read isKind isTold isShown same⟩
  | idemix isHidden isBlinding same => exact ⟨_, .idemix read isKind isTold isHidden isBlinding same⟩

/-- An owner that audit info describes is known by an id. -/
theorem DescribedBy.exists_known (described : owner.DescribedBy P info) :
    ∃ id, owner.KnownAs P info id := by
  cases described with
  | plain _ party =>
    obtain ⟨id, known⟩ := party.exists_known
    exact ⟨id, .plain known⟩
  | script _ isScript isParties sender recipient =>
    obtain ⟨_, sender⟩ := sender.exists_known
    obtain ⟨id, recipient⟩ := recipient.exists_known
    exact ⟨id, .script isScript isParties sender recipient⟩

/-- A wallet finds the id that a party is known by. -/
theorem PartyKnownAs.enrollmentId (known : party.PartyKnownAs P info id) :
    party.enrollmentId info = .ok id := by
  cases known with
  | x509 read isKind isTold _ same =>
    have given := AuditInfo.ne_nil_of_ofBytes isTold
    rw [enrollmentId_of_party given read isKind nofun, isTold, same]
    rfl
  | idemix read isKind isTold _ _ _ =>
    have given := AuditInfo.ne_nil_of_ofBytes isTold
    rw [enrollmentId_of_party given read isKind nofun, isTold]
    rfl

/-- A wallet finds the id that an owner is known by. -/
theorem KnownAs.enrollmentId (known : owner.KnownAs P info id) :
    owner.enrollmentId info = .ok id := by
  cases known with
  | plain party => exact party.enrollmentId
  | script isScript isParties _ recipient =>
    have given := ScriptInfo.ne_nil_of_ofBytes isParties
    rw [enrollmentId_of_script given isScript isParties]
    exact recipient.enrollmentId

/-- An owner is known by one id only. -/
theorem KnownAs.unique {id' : String} (known : owner.KnownAs P info id)
    (known' : owner.KnownAs P info id') : id = id' :=
  Except.ok.inj (known.enrollmentId.symm.trans known'.enrollmentId)

end Identity

/-! ## Accepted owners -/

/-- For an owner that the auditor accepts, a wallet finds an id: the one that the auditor matched the
owner to, and the one that the owner is known by. -/
theorem Auditor.resolved_of_accepted {P : Type} [PointGroup P] {token : AuditableToken P} {index : Nat}
    (accepted : inspectOwner token index = .ok ()) :
    ∃ id, token.token.owner.enrollmentId token.ownerInfo = .ok id ∧
      token.token.owner.MatchedTo token.ownerInfo id ∧
      token.token.owner.KnownAs P token.ownerInfo id := by
  have described := inspectOwner_eq_ok_iff.mp accepted
  obtain ⟨id, known⟩ := described.exists_known
  exact ⟨id, known.enrollmentId, described.matchedTo known.enrollmentId, known⟩

namespace Plain

/-- A wallet looks up the recipient of the swap where the swap owns a token. -/
theorem enrollmentId_locked :
    locked.owner.enrollmentId swapInfo.toBytes =
      recipient.identity.enrollmentId recipient.auditInfo :=
  have given : swapInfo.toBytes ≠ [] := nofun
  Identity.enrollmentId_of_script given ofIdentity_locked
    (ScriptInfo.ofBytes_toBytes (by decide) (by decide))

/-- The swap's token resolves to the recipient of the swap, and not to its sender, who has another id. -/
theorem locked_resolved : ∃ id, locked.owner.enrollmentId swapInfo.toBytes = .ok id ∧
    locked.owner.MatchedTo swapInfo.toBytes id ∧ locked.owner.KnownAs Plain swapInfo.toBytes id ∧
    recipient.identity.enrollmentId recipient.auditInfo = .ok id ∧
    sender.identity.enrollmentId sender.auditInfo ≠ .ok id := by
  have accepted : Auditor.inspectOwner ⟨locked, none, swapInfo.toBytes⟩ 0 = .ok () :=
    Auditor.inspectOwner_eq_ok_iff.mpr locked_described
  obtain ⟨id, found, matched, known⟩ := Auditor.resolved_of_accepted accepted
  have isRecipient := enrollmentId_locked.symm.trans found
  refine ⟨id, found, matched, known, isRecipient, fun isSender => ?_⟩
  obtain rfl : "bob" = id :=
    Except.ok.inj ((enrollmentId_recipient (by decide)).symm.trans isRecipient)
  exact absurd (enrollmentId_sender.symm.trans isSender) (by decide)

end Plain

end ConfidentialToken
