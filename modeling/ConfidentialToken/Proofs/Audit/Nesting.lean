import ConfidentialToken.Proofs.Audit.Enrollment
import ConfidentialToken.Proofs.Suite.Requests
import ConfidentialToken.Proofs.Wire.Size
import ConfidentialToken.Proofs.Wire.Types

/-!
# Scripts in scripts

The recipient of a script may be a script again, and so on, in bytes that anybody may choose. The search
for an enrollment id follows the recipients, and the audit infos of the recipients alongside. A script is
read only from the bytes that are written for it, so it takes sixty bytes besides its parties and its
hash, and the audit info of a script sixteen besides those of the parties. Hence the search goes on only
as often as there is room for, and what it answers is settled where it ends.
-/

namespace ConfidentialToken

open Wire (lengthBound)
open Wire.Codec

/-! ## What a script takes up -/

namespace Script

variable {identity : Identity} {script : Script}

theorem length_encode (script : Script) : (codec.encode script).length =
    40 + script.sender.bytes.length + script.recipient.bytes.length + script.lock.hash.length := by
  obtain ⟨sender, recipient, deadline, ⟨hash, function, encoding⟩⟩ := script
  show List.length (Identity.codec.encode sender ++ (Identity.codec.encode recipient ++
    (u64.encode deadline ++ (bytes.encode hash ++
      ((choice _).encode function ++ (choice _).encode encoding))))) = _
  have deadlineLength : (u64.encode deadline).length = 8 := Bytes.length_littleEndian 8 _
  have functionLength : ((choice [HashFunction.sha256, .sha512]).encode function).length = 4 :=
    Bytes.length_littleEndian 4 _
  have encodingLength : ((choice [ImageEncoding.raw, .hex]).encode encoding).length = 4 :=
    Bytes.length_littleEndian 4 _
  simp only [List.length_append, Identity.length_encode, length_encode_bytes, deadlineLength,
    functionLength, encodingLength]
  omega

theorem length_toIdentity (script : Script) : script.toIdentity.bytes.length =
    60 + script.sender.bytes.length + script.recipient.bytes.length + script.lock.hash.length := by
  have tagLength : (text.encode IdentityKind.script.tag).length = 12 := by decide
  show List.length (text.encode IdentityKind.script.tag ++
    Identity.codec.encode ⟨codec.encode script⟩) = _
  rw [List.length_append, tagLength, Identity.length_encode, length_encode]
  omega

/-- What is read as a script is the identity of the script. -/
theorem eq_toIdentity_of_ofIdentity (read : ofIdentity identity = .ok script) :
    identity = script.toIdentity := by
  obtain ⟨typed, parsed, isTyped⟩ := Outcome.bind_eq_ok_iff.mp read
  obtain ⟨isKind, isRaw⟩ := ofTyped_eq_ok_iff.mp isTyped
  obtain ⟨form, -⟩ := TypedIdentity.eq_wrap_of_parse parsed isKind
  have raw : typed.identity = ⟨codec.encode script⟩ :=
    congrArg Identity.mk (faithful.exact.encode_of_read isRaw).symm
  rw [form, raw, toIdentity]

theorem recipient_length_le (read : ofIdentity identity = .ok script) :
    60 + script.recipient.bytes.length ≤ identity.bytes.length := by
  rw [eq_toIdentity_of_ofIdentity read, length_toIdentity]
  omega

/-- Where the identity of a script can be written, all in it can. -/
theorem fits_of_toIdentity (fits : script.toIdentity.Fits) : script.Fits := by
  unfold Identity.Fits at fits
  rw [length_toIdentity] at fits
  have raw : (codec.encode script).length < lengthBound := by
    rw [length_encode]
    omega
  exact ⟨by unfold Identity.Fits; omega, by unfold Identity.Fits; omega, by omega, raw⟩

end Script

namespace ScriptInfo

variable {info : Bytes} {parties : ScriptInfo}

theorem length_toBytes (parties : ScriptInfo) :
    parties.toBytes.length = 16 + parties.sender.length + parties.recipient.length := by
  show List.length (bytes.encode parties.sender ++ bytes.encode parties.recipient) = _
  rw [List.length_append, length_encode_bytes, length_encode_bytes]
  omega

/-- What is read as the audit info of a script is what is written for it. -/
theorem eq_toBytes_of_ofBytes (read : ofBytes info = .ok parties) : info = parties.toBytes :=
  (faithful.exact.encode_of_read (Outcome.inContext_eq_ok_iff.mp read)).symm

theorem recipient_length_le (read : ofBytes info = .ok parties) :
    16 + parties.recipient.length ≤ info.length := by
  rw [eq_toBytes_of_ofBytes read, length_toBytes]
  omega

end ScriptInfo

/-! ## Following recipients -/

/-- From an identity and its audit info, so many steps lead to another identity and audit info: each
reads a script and the audit info of one, and goes on with the recipient. -/
inductive Identity.LeadsTo : Identity → Bytes → Nat → Identity → Bytes → Prop
  | here {identity : Identity} {info : Bytes} : LeadsTo identity info 0 identity info
  | through {identity last : Identity} {info lastInfo : Bytes} {depth : Nat} {script : Script}
    {parties : ScriptInfo} : Script.ofIdentity identity = .ok script →
    ScriptInfo.ofBytes info = .ok parties →
    LeadsTo script.recipient parties.recipient depth last lastInfo →
    LeadsTo identity info (depth + 1) last lastInfo

namespace Identity

variable {identity last : Identity} {info lastInfo : Bytes} {depth : Nat}

/-- Every step leaves room for one script less. -/
theorem LeadsTo.length_le (leads : identity.LeadsTo info depth last lastInfo) :
    60 * depth + last.bytes.length ≤ identity.bytes.length ∧
      16 * depth + lastInfo.length ≤ info.length := by
  induction leads with
  | here => omega
  | through isScript isParties _ ih =>
    have shorter := Script.recipient_length_le isScript
    have shorterInfo := ScriptInfo.recipient_length_le isParties
    omega

/-- The search goes on where it is led. -/
theorem LeadsTo.enrollmentId_eq (leads : identity.LeadsTo info depth last lastInfo) :
    identity.enrollmentId info = last.enrollmentId lastInfo := by
  induction leads with
  | here => rfl
  | through isScript isParties _ ih =>
    have given := ScriptInfo.ne_nil_of_ofBytes isParties
    exact (enrollmentId_of_script given isScript isParties).trans ih

end Identity

/-! ## Scripts around an identity -/

/-- All of a script but its recipient, with the audit info of its sender. -/
structure Script.Layer where
  sender : Identity
  deadline : UInt64
  lock : HashLock
  senderInfo : Bytes

namespace Script.Layer

/-- The script with a recipient. -/
def around (layer : Layer) (recipient : Identity) : Script :=
  ⟨layer.sender, recipient, layer.deadline, layer.lock⟩

/-- The audit infos of the parties, given that of the recipient. -/
def infoAround (layer : Layer) (recipientInfo : Bytes) : ScriptInfo := ⟨layer.senderInfo, recipientInfo⟩

/-- Scripts in scripts around an identity, the first one outermost. -/
def nest : List Layer → Identity → Identity
  | [], inner => inner
  | layer :: layers, inner => (layer.around (nest layers inner)).toIdentity

/-- The audit info of scripts in scripts, given that of the identity inside. -/
def nestInfo : List Layer → Bytes → Bytes
  | [], innerInfo => innerInfo
  | layer :: layers, innerInfo => (layer.infoAround (nestInfo layers innerInfo)).toBytes

variable {layers : List Layer} {inner : Identity} {innerInfo : Bytes}

theorem length_nest : (nest layers inner).bytes.length =
    (layers.map fun layer => 60 + layer.sender.bytes.length + layer.lock.hash.length).sum +
      inner.bytes.length := by
  induction layers with
  | nil => exact (Nat.zero_add _).symm
  | cons layer layers ih =>
    simp only [nest, length_toIdentity, around, ih, List.map_cons, List.sum_cons]
    omega

theorem length_nestInfo : (nestInfo layers innerInfo).length =
    (layers.map fun layer => 16 + layer.senderInfo.length).sum + innerInfo.length := by
  induction layers with
  | nil => exact (Nat.zero_add _).symm
  | cons layer layers ih =>
    simp only [nestInfo, ScriptInfo.length_toBytes, infoAround, ih, List.map_cons, List.sum_cons]
    omega

/-- Through scripts in scripts, the search is led to the identity inside. -/
theorem leadsTo_nest (fits : (nest layers inner).Fits)
    (infoFits : (nestInfo layers innerInfo).length < lengthBound) :
    (nest layers inner).LeadsTo (nestInfo layers innerInfo) layers.length inner innerInfo := by
  induction layers with
  | nil => exact .here
  | cons layer layers ih =>
    have scriptFits := fits_of_toIdentity fits
    simp only [nestInfo, ScriptInfo.length_toBytes, infoAround] at infoFits
    have senderFits : layer.senderInfo.length < lengthBound := by omega
    have restFits : (nestInfo layers innerInfo).length < lengthBound := by omega
    exact .through (ofIdentity_toIdentity scriptFits) (ScriptInfo.ofBytes_toBytes senderFits restFits)
      (ih scriptFits.recipient restFits)

/-- Scripts around an identity resolve to the enrollment id of the identity. -/
theorem enrollmentId_nest (fits : (nest layers inner).Fits)
    (infoFits : (nestInfo layers innerInfo).length < lengthBound) :
    (nest layers inner).enrollmentId (nestInfo layers innerInfo) = inner.enrollmentId innerInfo :=
  (leadsTo_nest fits infoFits).enrollmentId_eq

end Script.Layer

/-! ## Where the search ends -/

/-- Reading what the search needs of an identity and its audit info ends in an error: the identity has
no type, its tag names no kind, it is typed as a script and is none, or the audit info is not one of its
kind. -/
inductive Identity.Unreadable (identity : Identity) (info : Bytes) : Error → Prop
  | identity {e : Error} : TypedIdentity.parse identity = .error e → Unreadable identity info e
  | tag {typed : TypedIdentity} {e : Error} : TypedIdentity.parse identity = .ok typed →
    typed.kind = .error e → Unreadable identity info e
  | script {typed : TypedIdentity} {e : Error} : TypedIdentity.parse identity = .ok typed →
    typed.kind = .ok .script → Script.ofTyped typed = .error e → Unreadable identity info e
  | scriptInfo {script : Script} {e : Error} : Script.ofIdentity identity = .ok script →
    ScriptInfo.ofBytes info = .error e → Unreadable identity info e
  | partyInfo {typed : TypedIdentity} {kind : IdentityKind} {e : Error} :
    TypedIdentity.parse identity = .ok typed → typed.kind = .ok kind → kind ≠ .script →
    AuditInfo.ofBytes info = .error e → Unreadable identity info e

/-- The search ends at an identity and its audit info, with an answer: the empty id if there is no audit
info, the id in it for a plain party, and an error if something cannot be read. -/
inductive Identity.Settles (identity : Identity) : Bytes → Outcome String → Prop
  | nothing : Settles identity [] (.ok "")
  | party {info : Bytes} {typed : TypedIdentity} {kind : IdentityKind} {told : AuditInfo} :
    TypedIdentity.parse identity = .ok typed → typed.kind = .ok kind → kind ≠ .script →
    AuditInfo.ofBytes info = .ok told → Settles identity info (.ok told.enrollmentId)
  | unreadable {info : Bytes} {e : Error} : info ≠ [] → identity.Unreadable info e →
    Settles identity info (.error e)

namespace Identity

variable {identity last : Identity} {info lastInfo : Bytes} {depth : Nat} {outcome : Outcome String}

theorem Unreadable.enrollmentId_eq {e : Error} (given : info ≠ [])
    (unreadable : identity.Unreadable info e) : identity.enrollmentId info = .error e := by
  cases unreadable with
  | identity faulty =>
    unfold enrollmentId
    simp only [given, ↓reduceIte, faulty]
  | tag parsed faulty =>
    unfold enrollmentId
    simp only [given, ↓reduceIte, parsed, faulty]
  | script parsed isKind faulty =>
    unfold enrollmentId
    simp only [given, ↓reduceIte, parsed, isKind, faulty]
  | scriptInfo isScript faulty =>
    obtain ⟨typed, parsed, isTyped⟩ := Outcome.bind_eq_ok_iff.mp isScript
    obtain ⟨isKind, -⟩ := Script.ofTyped_eq_ok_iff.mp isTyped
    unfold enrollmentId
    simp only [given, ↓reduceIte, parsed, isKind, isTyped]
    split
    · next faulty' =>
      cases faulty'.symm.trans faulty
      rfl
    · next isParties => cases isParties.symm.trans faulty
  | partyInfo parsed isKind plain faulty =>
    rw [enrollmentId_of_party given parsed isKind plain, faulty]
    rfl

/-- Where the search ends, it gives the answer. -/
theorem Settles.enrollmentId_eq (settles : identity.Settles info outcome) :
    identity.enrollmentId info = outcome := by
  cases settles with
  | nothing => exact enrollmentId_nil identity
  | party parsed isKind plain isTold =>
    have given := AuditInfo.ne_nil_of_ofBytes isTold
    rw [enrollmentId_of_party given parsed isKind plain, isTold]
    rfl
  | unreadable given unreadable => exact unreadable.enrollmentId_eq given

/-- The search does end. -/
theorem exists_leadsTo_settles (identity : Identity) (info : Bytes) : ∃ depth last lastInfo,
    identity.LeadsTo info depth last lastInfo ∧
      last.Settles lastInfo (identity.enrollmentId info) := by
  -- the cases are the branches of the search, and only a script with its audit info goes on
  fun_induction enrollmentId identity info with
  | case1 identity => exact ⟨0, identity, _, .here, .nothing⟩
  | case2 identity info given e faulty =>
    exact ⟨0, identity, info, .here, .unreadable given (.identity faulty)⟩
  | case3 identity info given typed parsed e faulty =>
    exact ⟨0, identity, info, .here, .unreadable given (.tag parsed faulty)⟩
  | case4 identity info given typed parsed isKind e faulty =>
    exact ⟨0, identity, info, .here, .unreadable given (.script parsed isKind faulty)⟩
  | case5 identity info given typed parsed isKind script isTyped e faulty =>
    have isScript := Outcome.bind_eq_ok_iff.mpr ⟨_, parsed, isTyped⟩
    exact ⟨0, identity, info, .here, .unreadable given (.scriptInfo isScript faulty)⟩
  | case6 identity info given typed parsed isKind script isTyped parties isParties ih =>
    have isScript := Outcome.bind_eq_ok_iff.mpr ⟨_, parsed, isTyped⟩
    obtain ⟨depth, last, lastInfo, leads, settles⟩ := ih
    exact ⟨depth + 1, last, lastInfo, .through isScript isParties leads, settles⟩
  | case7 identity info given typed parsed kind plain isKind =>
    refine ⟨0, identity, info, .here, ?_⟩
    cases isTold : AuditInfo.ofBytes info with
    | error e => exact .unreadable given (.partyInfo parsed isKind plain isTold)
    | ok told => exact .party parsed isKind plain isTold

/-- The search answers what is settled in the place where it ends. -/
theorem enrollmentId_eq_iff : identity.enrollmentId info = outcome ↔ ∃ depth last lastInfo,
    identity.LeadsTo info depth last lastInfo ∧ last.Settles lastInfo outcome := by
  constructor
  · rintro rfl
    exact exists_leadsTo_settles identity info
  · rintro ⟨depth, last, lastInfo, leads, settles⟩
    exact leads.enrollmentId_eq.trans settles.enrollmentId_eq

/-- An id is told where the search is led to a place that settles it. -/
theorem tells_iff_exists_leadsTo {id : String} : identity.Tells info id ↔
    ∃ depth last lastInfo, identity.LeadsTo info depth last lastInfo ∧ last.Settles lastInfo (.ok id) :=
  enrollmentId_eq_ok_iff.symm.trans enrollmentId_eq_iff

/-- Where the search ends, it cannot go on. -/
theorem Settles.not_through {script : Script} {parties : ScriptInfo}
    (settles : identity.Settles info outcome) (isScript : Script.ofIdentity identity = .ok script) :
    ScriptInfo.ofBytes info ≠ .ok parties := by
  intro isParties
  obtain ⟨typed, parsed, isTyped⟩ := Outcome.bind_eq_ok_iff.mp isScript
  obtain ⟨isKind, -⟩ := Script.ofTyped_eq_ok_iff.mp isTyped
  cases settles with
  | nothing => cases isParties
  -- the bytes would be audit info of both kinds
  | party _ _ _ isTold => exact AuditInfo.ofBytes_ne_ok_of_script isParties isTold
  | unreadable _ unreadable =>
    cases unreadable with
    | identity faulty => cases parsed.symm.trans faulty
    | tag parsed' faulty =>
      cases parsed.symm.trans parsed'
      cases isKind.symm.trans faulty
    | script parsed' _ faulty =>
      cases parsed.symm.trans parsed'
      cases isTyped.symm.trans faulty
    | scriptInfo _ faulty => cases isParties.symm.trans faulty
    | partyInfo parsed' isKind' plain _ =>
      cases parsed.symm.trans parsed'
      exact plain (Except.ok.inj (isKind'.symm.trans isKind))

/-- The search ends in one place only. -/
theorem LeadsTo.unique {depth' : Nat} {last' : Identity} {lastInfo' : Bytes}
    {outcome' : Outcome String} (leads : identity.LeadsTo info depth last lastInfo)
    (settles : last.Settles lastInfo outcome) (leads' : identity.LeadsTo info depth' last' lastInfo')
    (settles' : last'.Settles lastInfo' outcome') :
    depth = depth' ∧ last = last' ∧ lastInfo = lastInfo' := by
  induction leads generalizing depth' with
  | here =>
    cases leads' with
    | here => exact ⟨rfl, rfl, rfl⟩
    | through isScript isParties _ => exact absurd isParties (settles.not_through isScript)
  | through isScript isParties _ ih =>
    cases leads' with
    | here => exact absurd isParties (settles'.not_through isScript)
    | through isScript' isParties' rest' =>
      cases isScript.symm.trans isScript'
      cases isParties.symm.trans isParties'
      obtain ⟨rfl, same⟩ := ih settles rest'
      exact ⟨rfl, same⟩

/-- The search for an enrollment id ends however deep scripts are nested, because the recipient of a
script is shorter than the script, and so is its audit info: it goes on at most once for each sixty bytes
of the identity and sixteen of the audit info. Wherever it is led, the answer stays the same; and what it
answers is what is settled in the place where it ends, be that the empty id, the id of a plain party or an
error. The id of a plain party is the one in its audit info: its raw identity is not looked at. -/
theorem enrollmentId_nested (identity : Identity) (info : Bytes) :
    (∀ script, Script.ofIdentity identity = .ok script →
      script.recipient.bytes.length < identity.bytes.length) ∧
    (∀ parties, ScriptInfo.ofBytes info = .ok parties → parties.recipient.length < info.length) ∧
    (∀ depth last lastInfo, identity.LeadsTo info depth last lastInfo →
      60 * depth + last.bytes.length ≤ identity.bytes.length ∧
      16 * depth + lastInfo.length ≤ info.length ∧
      identity.enrollmentId info = last.enrollmentId lastInfo) ∧
    ∀ outcome, identity.enrollmentId info = outcome ↔ ∃ depth last lastInfo,
      identity.LeadsTo info depth last lastInfo ∧ last.Settles lastInfo outcome := by
  refine ⟨fun script isScript => ?_, fun parties isParties => ?_, fun depth last lastInfo leads => ?_,
    fun _ => enrollmentId_eq_iff⟩
  · have shorter := Script.recipient_length_le isScript
    omega
  · have shorter := ScriptInfo.recipient_length_le isParties
    omega
  · exact ⟨leads.length_le.1, leads.length_le.2, leads.enrollmentId_eq⟩

end Identity

namespace Plain

/-- The swap without its recipient, and a script of the same sender around it. -/
def layers : List Script.Layer :=
  [⟨sender.identity, 20, ⟨[2], .sha512, .hex⟩, sender.auditInfo⟩,
    ⟨sender.identity, 10, ⟨[1], .sha256, .raw⟩, sender.auditInfo⟩]

set_option maxRecDepth 4096 in
theorem layers_fit : (Script.Layer.nest layers recipient.identity).Fits := by
  unfold Identity.Fits
  rw [Script.Layer.length_nest]
  decide

set_option maxRecDepth 4096 in
theorem layersInfo_fits {info : Bytes} (short : info.length ≤ recipient.auditInfo.length) :
    (Script.Layer.nestInfo layers info).length < Wire.lengthBound := by
  rw [Script.Layer.length_nestInfo]
  exact (Nat.add_le_add_left short _).trans_lt (by decide)

/-- Two scripts around the recipient of the swap: its audit info tells its id, no audit info the empty
id, and bytes that are no audit info give an error. -/
theorem layers_nested :
    let identity := Script.Layer.nest layers recipient.identity
    let info := Script.Layer.nestInfo layers
    120 + recipient.identity.bytes.length ≤ identity.bytes.length ∧
    identity.enrollmentId (info recipient.auditInfo) = .ok "bob" ∧
    identity.enrollmentId (info []) = .ok "" ∧ ∃ e, identity.enrollmentId (info [0]) = .error e := by
  intro identity info
  have leads {inner : Bytes} (short : inner.length ≤ recipient.auditInfo.length) :
      identity.LeadsTo (info inner) 2 recipient.identity inner :=
    Script.Layer.leadsTo_nest layers_fit (layersInfo_fits short)
  have parsed : TypedIdentity.parse recipient.identity = .ok ⟨IdentityKind.x509.tag, _⟩ :=
    TypedIdentity.parse_wrap .x509 rawRecipient_fits
  have told : AuditInfo.ofBytes recipient.auditInfo = .ok ⟨"bob", [], none⟩ :=
    AuditInfo.ofBytes_encode (by decide) (by decide)
  obtain ⟨e, faulty⟩ : ∃ e, AuditInfo.ofBytes [0] = .error e := ⟨_, rfl⟩
  have search (inner : Bytes) := (Identity.enrollmentId_nested identity (info inner)).2.2
  obtain ⟨led, found⟩ := search recipient.auditInfo
  refine ⟨(led _ _ _ (leads le_rfl)).1, (found _).mpr ⟨_, _, _, leads le_rfl, ?_⟩,
    ((search []).2 _).mpr ⟨_, _, _, leads (Nat.zero_le _), .nothing⟩,
    e, ((search [0]).2 _).mpr ⟨_, _, _, leads (by decide), .unreadable nofun ?_⟩⟩
  · exact .party parsed rfl nofun told
  · exact .partyInfo parsed rfl nofun faulty

end Plain

end ConfidentialToken
