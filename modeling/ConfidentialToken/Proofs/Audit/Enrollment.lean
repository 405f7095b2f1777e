import ConfidentialToken.Proofs.Audit.Description
import ConfidentialToken.Proofs.Wire.Reading

/-!
# The enrollment id behind an owner

A wallet looks up the enrollment id of an identity in its audit info, and the auditor matches an owner
against the enrollment id that the audit info of the owner names. The audit info of a plain party cannot
be read as that of a script, nor the other way round; so where an owner is described, whatever identity
is looked up with its audit info, the id that is found is the one that the auditor matched.
-/

namespace ConfidentialToken

/-! ## Two kinds of audit info -/

/-- Nothing is no audit info of a party. -/
theorem AuditInfo.ne_nil_of_ofBytes {bytes : Bytes} {told : AuditInfo} (isTold : ofBytes bytes = .ok told) :
    bytes ≠ [] := by
  rintro rfl
  cases isTold

/-- Nothing is no audit info of a script. -/
theorem ScriptInfo.ne_nil_of_ofBytes {bytes : Bytes} {parties : ScriptInfo}
    (isParties : ofBytes bytes = .ok parties) : bytes ≠ [] := by
  rintro rfl
  cases isParties

/-- Bytes begin with one sized part only, whatever the fault is when they end too soon. -/
theorem Wire.Codec.decode_sized_unique {short short' : Fault} {bytes value value' rest rest' : Bytes}
    (read : (sized short).decode bytes = .ok (value, rest))
    (read' : (sized short').decode bytes = .ok (value', rest')) : value = value' ∧ rest = rest' := by
  rw [decode_sized_eq_ok_iff] at read read'
  obtain ⟨length, after⟩ := Prod.mk.inj (Except.ok.inj (read.symm.trans read'))
  exact List.append_inj after length

/-- The audit info of a party is two sized parts and a tag, that of a script the parts alone; so nothing
can be read as both. -/
theorem AuditInfo.ofBytes_ne_ok_of_script {bytes : Bytes} {parties : ScriptInfo} {told : AuditInfo}
    (script : ScriptInfo.ofBytes bytes = .ok parties) : ofBytes bytes ≠ .ok told := by
  intro party
  have script := Wire.Codec.decode_of_read (Outcome.inContext_eq_ok_iff.mp script)
  have party := Wire.Codec.decode_of_read (Outcome.inContext_eq_ok_iff.mp party)
  obtain ⟨_, script, -⟩ := Wire.Codec.decode_via_eq_ok_iff.mp script
  obtain ⟨_, sender, recipient⟩ := Wire.Codec.decode_pair_eq_ok_iff.mp script
  obtain ⟨_, party, -⟩ := Wire.Codec.decode_via_eq_ok_iff.mp party
  obtain ⟨_, id, party⟩ := Wire.Codec.decode_pair_eq_ok_iff.mp party
  obtain ⟨_, handle, blinding⟩ := Wire.Codec.decode_pair_eq_ok_iff.mp party
  obtain ⟨_, id, -⟩ := Wire.Codec.decode_refine_eq_ok_iff.mp id
  obtain ⟨-, rfl⟩ := Wire.Codec.decode_sized_unique sender id
  obtain ⟨-, rfl⟩ := Wire.Codec.decode_sized_unique recipient handle
  -- nothing is left for the tag
  cases blinding

/-! ## Looking up -/

/-- Audit info tells the enrollment id of an identity: the empty id if there is none; the id in it for a
plain party; for a script, what the audit info of its recipient tells. -/
inductive Identity.Tells : Identity → Bytes → String → Prop
  | nothing {identity : Identity} : Tells identity [] ""
  | party {identity : Identity} {info : Bytes} {typed : TypedIdentity} {kind : IdentityKind}
    {told : AuditInfo} : info ≠ [] → TypedIdentity.parse identity = .ok typed →
    typed.kind = .ok kind → kind ≠ .script → AuditInfo.ofBytes info = .ok told →
    Tells identity info told.enrollmentId
  | script {identity : Identity} {info : Bytes} {script : Script} {parties : ScriptInfo}
    {id : String} : info ≠ [] → Script.ofIdentity identity = .ok script →
    ScriptInfo.ofBytes info = .ok parties → Tells script.recipient parties.recipient id →
    Tells identity info id

namespace Identity

variable {identity : Identity} {info : Bytes} {id : String}

@[simp] theorem enrollmentId_nil (identity : Identity) : identity.enrollmentId [] = .ok "" := by
  unfold enrollmentId
  exact if_pos rfl

/-- The id of a plain party is the one in its audit info. -/
theorem enrollmentId_of_party {typed : TypedIdentity} {kind : IdentityKind} (given : info ≠ [])
    (read : TypedIdentity.parse identity = .ok typed) (isKind : typed.kind = .ok kind)
    (plain : kind ≠ .script) :
    identity.enrollmentId info = (AuditInfo.ofBytes info).map AuditInfo.enrollmentId := by
  unfold enrollmentId
  cases kind with
  | script => exact absurd rfl plain
  | x509 => simp [given, read, isKind]
  | idemix => simp [given, read, isKind]

/-- The id of a script is that of its recipient. -/
theorem enrollmentId_of_script {script : Script} {parties : ScriptInfo} (given : info ≠ [])
    (isScript : Script.ofIdentity identity = .ok script)
    (isParties : ScriptInfo.ofBytes info = .ok parties) :
    identity.enrollmentId info = script.recipient.enrollmentId parties.recipient := by
  obtain ⟨typed, read, isTyped⟩ := Outcome.bind_eq_ok_iff.mp isScript
  obtain ⟨isKind, -⟩ := Script.ofTyped_eq_ok_iff.mp isTyped
  conv_lhs => unfold enrollmentId
  simp only [given, ↓reduceIte, read, isKind, isTyped]
  split
  · next faulty => cases isParties.symm.trans faulty
  · next isInfo =>
    cases isParties.symm.trans isInfo
    rfl

/-- An enrollment id is found when the audit info tells it. -/
theorem enrollmentId_eq_ok_iff : identity.enrollmentId info = .ok id ↔ identity.Tells info id := by
  constructor
  · intro found
    fun_induction enrollmentId identity info with
    | case1 =>
      cases found
      exact .nothing
    | case2 => cases found
    | case3 => cases found
    | case4 => cases found
    | case5 => cases found
    | case6 _ _ given _ read _ _ isTyped _ isParties ih =>
      have isScript := Outcome.bind_eq_ok_iff.mpr ⟨_, read, isTyped⟩
      exact .script given isScript isParties (ih found)
    | case7 _ info given _ read _ plain isKind =>
      cases party : AuditInfo.ofBytes info with
      | error e =>
        rw [party] at found
        cases found
      | ok told =>
        rw [party] at found
        cases found
        exact .party given read isKind plain party
  · intro tells
    induction tells with
    | nothing => exact enrollmentId_nil _
    | party given read isKind plain isTold =>
      rw [enrollmentId_of_party given read isKind plain, isTold]
      rfl
    | script given isScript isParties _ ih =>
      rw [enrollmentId_of_script given isScript isParties]
      exact ih

/-- Where audit info is that of a party, no other id can be found with it. -/
theorem Tells.eq_of_party {told : AuditInfo} (tells : identity.Tells info id)
    (party : AuditInfo.ofBytes info = .ok told) : id = told.enrollmentId := by
  cases tells with
  | nothing => cases party
  | party _ _ _ _ party' => exact congrArg _ (Except.ok.inj (party'.symm.trans party))
  | script _ _ isParties _ => exact absurd party (AuditInfo.ofBytes_ne_ok_of_script isParties)

/-- Where audit info is that of a script, no other id can be found with it than the recipient's. -/
theorem Tells.eq_of_script {parties : ScriptInfo} {told : AuditInfo} (tells : identity.Tells info id)
    (isParties : ScriptInfo.ofBytes info = .ok parties)
    (recipient : AuditInfo.ofBytes parties.recipient = .ok told) : id = told.enrollmentId := by
  cases tells with
  | nothing => cases isParties
  | party _ _ _ _ party => exact absurd party (AuditInfo.ofBytes_ne_ok_of_script isParties)
  | script _ _ isParties' tells =>
    cases isParties.symm.trans isParties'
    exact tells.eq_of_party recipient

end Identity

/-! ## Matching -/

/-- The id that the auditor matches an owner against: that of the owner's matcher, and of the
recipient's matcher when the owner is a script. -/
inductive Identity.MatchedTo (owner : Identity) (info : Bytes) : String → Prop
  | plain {matcher : OwnerMatcher} :
    OwnerMatcher.ofAuditInfo owner info = .ok matcher → MatchedTo owner info matcher.id
  | script {script : Script} {parties : ScriptInfo} {matcher : OwnerMatcher} :
    Script.ofIdentity owner = .ok script → ScriptInfo.ofBytes info = .ok parties →
    OwnerMatcher.ofAuditInfo script.recipient parties.recipient = .ok matcher →
    MatchedTo owner info matcher.id

/-- A matcher stands for the id in the audit info that it was made from. -/
theorem OwnerMatcher.exists_of_ofAuditInfo {owner : Identity} {info : Bytes} {matcher : OwnerMatcher}
    (made : ofAuditInfo owner info = .ok matcher) : ∃ typed kind told,
      TypedIdentity.parse owner = .ok typed ∧ typed.kind = .ok kind ∧ kind ≠ .script ∧
      AuditInfo.ofBytes info = .ok told ∧ matcher.id = told.enrollmentId := by
  simp only [ofAuditInfo, Outcome.bind_eq_ok_iff] at made
  obtain ⟨typed, read, kind, isKind, made⟩ := made
  cases kind with
  | x509 =>
    obtain ⟨told, isTold, made⟩ := Outcome.bind_eq_ok_iff.mp made
    cases made
    exact ⟨typed, _, told, read, isKind, by decide, isTold, rfl⟩
  | idemix =>
    obtain ⟨told, isTold, made⟩ := Outcome.bind_eq_ok_iff.mp made
    split at made
    · cases made
      exact ⟨typed, _, told, read, isKind, by decide, isTold, rfl⟩
    · cases made
  | script => cases made

namespace Identity

variable {P : Type} [PointGroup P] {identity owner : Identity} {info : Bytes} {id : String}

/-- A party that is described has a matcher, and no other id can be found with its audit info. -/
theorem PartyDescribedBy.exists_matcher (described : owner.PartyDescribedBy P info) :
    ∃ matcher told, OwnerMatcher.ofAuditInfo owner info = .ok matcher ∧
      AuditInfo.ofBytes info = .ok told ∧ matcher.id = told.enrollmentId := by
  obtain ⟨typed, -, -, read, -⟩ := id described
  obtain ⟨matcher, made, -⟩ := (OwnerMatcher.exists_accept_iff read).mpr described
  obtain ⟨-, -, told, -, -, -, isTold, same⟩ := OwnerMatcher.exists_of_ofAuditInfo made
  exact ⟨matcher, told, made, isTold, same⟩

/-- The id that is found with the audit info of a described owner, for whatever identity, is the one
that the owner is matched to. -/
theorem DescribedBy.matchedTo (described : owner.DescribedBy P info)
    (found : identity.enrollmentId info = .ok id) : owner.MatchedTo info id := by
  have tells := enrollmentId_eq_ok_iff.mp found
  cases described with
  | plain _ party =>
    obtain ⟨matcher, told, made, isTold, same⟩ := party.exists_matcher
    obtain rfl : id = matcher.id := (tells.eq_of_party isTold).trans same.symm
    exact .plain made
  | script _ isScript isParties _ recipient =>
    obtain ⟨matcher, told, made, isTold, same⟩ := recipient.exists_matcher
    obtain rfl : id = matcher.id := (tells.eq_of_script isParties isTold).trans same.symm
    exact .script isScript isParties made

/-- An owner is matched to one id only. -/
theorem MatchedTo.unique {id' : String} (matched : owner.MatchedTo info id)
    (matched' : owner.MatchedTo info id') : id = id' := by
  -- what has a matcher of its own is no script
  have apart {matcher : OwnerMatcher} {script : Script}
      (made : OwnerMatcher.ofAuditInfo owner info = .ok matcher)
      (isScript : Script.ofIdentity owner = .ok script) : False := by
    obtain ⟨typed, kind, -, read, isKind, plain, -⟩ := OwnerMatcher.exists_of_ofAuditInfo made
    obtain ⟨typed', read', isTyped⟩ := Outcome.bind_eq_ok_iff.mp isScript
    obtain ⟨isKind', -⟩ := Script.ofTyped_eq_ok_iff.mp isTyped
    cases read.symm.trans read'
    exact plain (Except.ok.inj (isKind.symm.trans isKind'))
  cases matched with
  | plain made =>
    cases matched' with
    | plain made' =>
      cases made.symm.trans made'
      rfl
    | script isScript _ _ => exact (apart made isScript).elim
  | script isScript isParties made =>
    cases matched' with
    | plain made' => exact (apart made' isScript).elim
    | script isScript' isParties' made' =>
      cases isScript.symm.trans isScript'
      cases isParties.symm.trans isParties'
      cases made.symm.trans made'
      rfl

end Identity

/-- The enrollment id of a credential that shows it is found with its audit info. -/
theorem Credential.enrollmentId_x509 {P : Type} [Suite P] {enrollmentId : String} {seed : Block 32}
    {handle : Bytes} (short : (Bytes.ofText enrollmentId).length < Wire.lengthBound)
    (handleFits : handle.length < Wire.lengthBound)
    (fits : Identity.Fits ⟨X509Identity.codec.encode ⟨enrollmentId, Suite.publicKey P seed⟩⟩) :
    (x509 P enrollmentId seed handle).identity.enrollmentId (x509 P enrollmentId seed handle).auditInfo =
      .ok enrollmentId := by
  have told : AuditInfo.ofBytes (x509 P enrollmentId seed handle).auditInfo =
      .ok ⟨enrollmentId, handle, none⟩ := AuditInfo.ofBytes_encode short handleFits
  exact Identity.enrollmentId_eq_ok_iff.mpr
    (.party (AuditInfo.ne_nil_of_ofBytes told) (TypedIdentity.parse_wrap .x509 fits) rfl nofun told)

end ConfidentialToken
