import ConfidentialToken.Proofs.Metadata.Reports
import ConfidentialToken.Proofs.ZeroKnowledge.Balance

/-!
# Disclosures are binding

A commitment to three scalars can be opened in two ways only by whoever knows a relation between the three
generators. The auditor recomputes the commitment of each output from what metadata discloses, and the
pseudonym of each owner from the audit info; both are in the request. So whoever has two different
disclosures for one request, both accepted, has a relation between the generators of the parameters, or
between the default ones for owners. Types and enrollment ids are bound up to collisions of their hash,
values and blinding factors are bound as they are.
-/

namespace ConfidentialToken

open PointGroup (combine)
open PointGroup.Linear (combine_triple)

/-! ## Relations between generators -/

section

variable {P : Type} [PointGroup P]

/-- Three scalars relate the generators: some of them is not zero, and the combination is neutral. -/
structure Generators.Related (g : Generators P) (a b c : Scalar) : Prop where
  nontrivial : a ≠ 0 ∨ b ≠ 0 ∨ c ≠ 0
  vanishes : combine [(a, g.typeBase), (b, g.valueBase), (c, g.blindingBase)] = PointGroup.zero

/-- Equal combinations have equal scalars, or the differences relate the generators. -/
theorem Generators.eq_or_related [PointGroup.Linear P] {g : Generators P} {a a' b b' c c' : Scalar}
    (same : combine [(a, g.typeBase), (b, g.valueBase), (c, g.blindingBase)] =
      combine [(a', g.typeBase), (b', g.valueBase), (c', g.blindingBase)]) :
    (a = a' ∧ b = b' ∧ c = c') ∨ g.Related (a - a') (b - b') (c - c') := by
  by_cases equal : a = a' ∧ b = b' ∧ c = c'
  · exact .inl equal
  refine .inr ⟨?_, ?_⟩
  · by_contra! zero
    exact equal ⟨sub_eq_zero.mp zero.1, sub_eq_zero.mp zero.2.1, sub_eq_zero.mp zero.2.2⟩
  · have difference := sub_eq_zero.mpr same
    rw [combine_triple, combine_triple] at difference
    refine Eq.trans ?_ difference
    rw [combine_triple, map_sub, map_sub, map_sub]
    abel

end

/-! ## Openings -/

section

variable {P : Type} [PointGroup P]

/-- Two openings say the same, the type up to its hash, or their differences relate the generators. -/
def Opening.SameOrRelated (g : Generators P) (opening opening' : Opening) : Prop :=
  (Scalar.hash (Bytes.ofText opening.tokenType) = Scalar.hash (Bytes.ofText opening'.tokenType) ∧
    opening.value = opening'.value ∧ opening.blinding = opening'.blinding) ∨
  g.Related
    (Scalar.hash (Bytes.ofText opening.tokenType) - Scalar.hash (Bytes.ofText opening'.tokenType))
    (Scalar.ofNat opening.value.toNat - Scalar.ofNat opening'.value.toNat)
    (opening.blinding - opening'.blinding)

/-- Values of 64 bits are below the group order, so their residues tell them apart. -/
theorem Scalar.ofNat_toNat_inj {v v' : UInt64}
    (same : Scalar.ofNat v.toNat = Scalar.ofNat v'.toNat) : v = v' := by
  have below : ∀ v : UInt64, v.toNat < groupOrder := fun v =>
    v.toNat_lt.trans (by decide)
  exact UInt64.toNat.inj (Scalar.ofNat_inj (below v) (below v') same)

variable [PointGroup.Linear P] {g : Generators P}

/-- Openings of one commitment. -/
theorem Opening.sameOrRelated {opening opening' : Opening}
    (same : opening.commitment g = opening'.commitment g) : opening.SameOrRelated g opening' := by
  refine (Generators.eq_or_related (congrArg Commitment.point same)).imp_left ?_
  rintro ⟨type, value, blinding⟩
  exact ⟨type, Scalar.ofNat_toNat_inj value, blinding⟩

/-- Disclosures that open one token. -/
theorem Token.OpenedBy.sameOrRelated {token : Token P} {disclosure disclosure' : Bytes}
    (opened : token.OpenedBy g disclosure) (opened' : token.OpenedBy g disclosure') :
    ∃ told told', Disclosure.ofBytes disclosure = .ok told ∧ Disclosure.ofBytes disclosure' = .ok told' ∧
      told.opening.SameOrRelated g told'.opening := by
  obtain ⟨told, read, opens⟩ := opened
  obtain ⟨told', read', opens'⟩ := opened'
  exact ⟨told, told', read, read', Opening.sameOrRelated (opens.trans opens'.symm)⟩

end

/-! ## Pseudonyms -/

/-- The identity of somebody behind a pseudonym. -/
def Identity.IsIdemix (identity : Identity) : Prop :=
  ∃ typed, TypedIdentity.parse identity = .ok typed ∧ typed.kind = .ok .idemix

theorem Identity.IsIdemix.isNone_eq {identity : Identity} (idemix : identity.IsIdemix) :
    identity.isNone = false := by
  obtain ⟨typed, read, -⟩ := idemix
  exact TypedIdentity.isNone_of_parse read

section

variable (P : Type) [PointGroup P]

/-- Two audit infos, both with the blinding factor of a pseudonym, say the same, id and handle up to their
hashes, or their differences relate the default generators. -/
def AuditInfo.SameOrRelated (told told' : AuditInfo) : Prop :=
  ∃ blinding blinding', told.pseudonymBlinding = some blinding ∧
    told'.pseudonymBlinding = some blinding' ∧
    ((Scalar.hash (Bytes.ofText told.enrollmentId) = Scalar.hash (Bytes.ofText told'.enrollmentId) ∧
        Scalar.hash told.revocationHandle = Scalar.hash told'.revocationHandle ∧
        blinding = blinding') ∨
      (Generators.default : Generators P).Related
        (Scalar.hash (Bytes.ofText told.enrollmentId) - Scalar.hash (Bytes.ofText told'.enrollmentId))
        (Scalar.hash told.revocationHandle - Scalar.hash told'.revocationHandle)
        (blinding - blinding'))

end

section

variable {P : Type} [PointGroup P]

/-- Audit info that describes somebody behind a pseudonym opens the pseudonym. -/
theorem Identity.DescribedBy.opens_idemix {owner : Identity} {info : Bytes}
    (described : owner.DescribedBy P info) {typed : TypedIdentity}
    (read : TypedIdentity.parse owner = .ok typed) (isKind : typed.kind = .ok .idemix) :
    ∃ (hidden : IdemixIdentity P) (told : AuditInfo) (blinding : Scalar),
      IdemixIdentity.codec.read typed.identity.bytes = .ok hidden ∧ AuditInfo.ofBytes info = .ok told ∧
      told.pseudonymBlinding = some blinding ∧
      hidden.pseudonym = pseudonym told.enrollmentId told.revocationHandle blinding := by
  cases described with
  | plain _ party =>
    obtain ⟨typed', kind, told, read', isKind', isTold, trueOf⟩ := party
    obtain rfl : typed = typed' := Except.ok.inj (read.symm.trans read')
    obtain rfl : .idemix = kind := Except.ok.inj (isKind.symm.trans isKind')
    cases trueOf with
    | idemix isHidden isBlinding same => exact ⟨_, told, _, isHidden, isTold, isBlinding, same⟩
  | script _ isScript =>
    obtain ⟨typed', read', isTyped⟩ := Outcome.bind_eq_ok_iff.mp isScript
    obtain rfl : typed = typed' := Except.ok.inj (read.symm.trans read')
    exact nomatch isKind.symm.trans (Script.ofTyped_eq_ok_iff.mp isTyped).1

/-- The audit info of a credential under a pseudonym describes its identity. -/
theorem Credential.idemix_describedBy {P : Type} [Suite P] [PointGroup.LawfulEncoding P]
    {enrollmentId : String} {seed : Block 32} {handle : Bytes} {blinding : Scalar}
    (id : (Bytes.ofText enrollmentId).length < Wire.lengthBound)
    (handleFits : handle.length < Wire.lengthBound)
    (fits : Identity.Fits ⟨IdemixIdentity.codec.encode
      ⟨pseudonym (P := P) enrollmentId handle blinding, Suite.publicKey P seed⟩⟩) :
    (idemix P enrollmentId seed handle blinding).identity.PartyDescribedBy P
      (idemix P enrollmentId seed handle blinding).auditInfo := by
  have trips : IdemixIdentity.codec.RoundTrips
      (⟨pseudonym (P := P) enrollmentId handle blinding, Suite.publicKey P seed⟩ :
        IdemixIdentity P) :=
    .via rfl (.pair (Commitment.roundTrips _) (Wire.Codec.roundTrips_block 32 _))
  exact ⟨_, .idemix, _, TypedIdentity.parse_wrap .idemix fits, rfl,
    AuditInfo.ofBytes_encode id handleFits, .idemix trips.read_encode rfl rfl⟩

/-- Audit infos that describe one owner behind a pseudonym. -/
theorem Identity.IsIdemix.sameOrRelated [PointGroup.Linear P] {owner : Identity} (idemix : owner.IsIdemix)
    {info info' : Bytes} (described : owner.DescribedBy P info)
    (described' : owner.DescribedBy P info') : ∃ told told', AuditInfo.ofBytes info = .ok told ∧
      AuditInfo.ofBytes info' = .ok told' ∧ told.SameOrRelated P told' := by
  obtain ⟨typed, read, isKind⟩ := idemix
  obtain ⟨hidden, told, r, isHidden, isTold, isBlinding, same⟩ := described.opens_idemix read isKind
  obtain ⟨hidden', told', r', isHidden', isTold', isBlinding', same'⟩ :=
    described'.opens_idemix read isKind
  obtain rfl : hidden = hidden' := Except.ok.inj (isHidden.symm.trans isHidden')
  exact ⟨told, told', isTold, isTold', r, r', isBlinding, isBlinding',
    Generators.eq_or_related (congrArg Commitment.point (same.symm.trans same'))⟩

end

/-! ## Owners in a request -/

/-- Where a token stands whose owner the auditor is told: among the outputs, or among the tokens that a
transfer spends. -/
inductive OwnerPlace where
  | output (place : OutputPlace)
  | input (transfer index : Nat)

namespace OwnerPlace

/-- The token in a place. -/
def token? {P : Type} (actions : ValidatedActions P) (shown : List (List (Token P))) :
    OwnerPlace → Option (Token P)
  | output place => place.output? actions
  | input k i => shown[k]?.bind (·[i]?)

/-- The audit info that metadata has for the owner in a place. -/
def info? (metadata : RequestMetadata) : OwnerPlace → Option Bytes
  | output place => place.ownerInfo? metadata
  | input k i => metadata.transfers[k]?.bind (·.senderAuditInfos[i]?)

end OwnerPlace

/-- The owner in a place is the one that is described there. -/
theorem TokenRequest.DisclosedBy.describedAt_ownerPlace {P : Type} [PointGroup P] {g : Generators P}
    {request : TokenRequest} {metadata : RequestMetadata} {shown : List (List (Token P))}
    {actions : ValidatedActions P} (full : request.DisclosedBy g metadata shown)
    (read : request.readActions P = .ok (actions.issues, actions.transfers)) {place : OwnerPlace}
    {token : Token P} (there : place.token? actions shown = some token)
    (owned : token.isRedeemed = false) :
    ∃ info, place.info? metadata = some info ∧ token.owner.DescribedBy P info := by
  cases place with
  | output place => exact full.describedAt read there owned
  | input k i =>
    obtain ⟨tokens, isShown, listed⟩ := Option.bind_eq_some_iff.mp there
    have bound : k < metadata.transfers.length :=
      full.spends ▸ (List.getElem?_eq_some_iff.mp isShown).1
    have told := List.getElem?_eq_getElem bound
    have bytes := List.getElem?_eq_getElem (full.transfers ▸ bound)
    obtain ⟨action, -, disclosed⟩ := full.transfer k _ _ _ bytes told isShown
    have info := List.getElem?_eq_getElem
      (disclosed.senders ▸ (List.getElem?_eq_some_iff.mp listed).1)
    exact ⟨_, Option.bind_eq_some_iff.mpr ⟨_, told, info⟩,
      disclosed.sender i token _ listed info owned⟩

variable {P : Type} [Suite P] [PointGroup.Linear P]

/-- Audit disclosure is binding. If one request with the same spent tokens is accepted with two metadata,
then in every place of an output, redeemed or not, both disclose openings that say the same or give a
relation between the generators of the parameters; and for every owner behind a pseudonym, of an output or
of a spent token, both have audit infos that say the same or give a relation between the default
generators. The latter holds of any token whose owner is inspected with two audit infos. -/
theorem Auditor.disclosures_bind {pp : PublicParameters P} {signer signer' : Option Signer}
    {parent parent' : Logger} {request : TokenRequest} {metadata metadata' : RequestMetadata}
    {shown : List (List (Token P))} {txId txId' : String} {log log' : List LogRecord}
    (audited : (((Auditor.create pp signer parent).check request metadata shown txId).perform
      log).1 = .ok ())
    (audited' : (((Auditor.create pp signer' parent').check request metadata' shown txId').perform
      log').1 = .ok ()) :
    (∃ actions : ValidatedActions P,
      request.readActions P = .ok (actions.issues, actions.transfers) ∧
      (∀ (place : OutputPlace) (token : Token P), place.output? actions = some token →
        ∃ disclosure disclosure' told told', place.disclosure? metadata = some disclosure ∧
          place.disclosure? metadata' = some disclosure' ∧
          Disclosure.ofBytes disclosure = .ok told ∧ Disclosure.ofBytes disclosure' = .ok told' ∧
          told.opening.SameOrRelated pp.generators told'.opening) ∧
      ∀ (place : OwnerPlace) (token : Token P), place.token? actions shown = some token →
        token.owner.IsIdemix → ∃ info info' told told', place.info? metadata = some info ∧
          place.info? metadata' = some info' ∧ AuditInfo.ofBytes info = .ok told ∧
          AuditInfo.ofBytes info' = .ok told' ∧ told.SameOrRelated P told') ∧
    ∀ (token : Token P) (opening opening' : Option Opening) (info info' : Bytes) (i i' : Nat),
      token.owner.IsIdemix → inspectOwner ⟨token, opening, info⟩ i = .ok () →
      inspectOwner ⟨token, opening', info'⟩ i' = .ok () → ∃ told told',
        AuditInfo.ofBytes info = .ok told ∧ AuditInfo.ofBytes info' = .ok told' ∧
        told.SameOrRelated P told' := by
  have full : request.DisclosedBy pp.generators metadata shown :=
    inspect_eq_ok_iff.mp (check_eq_ok_iff_inspect.mp audited)
  have full' : request.DisclosedBy pp.generators metadata' shown :=
    inspect_eq_ok_iff.mp (check_eq_ok_iff_inspect.mp audited')
  obtain ⟨actions, read⟩ := full.exists_actions
  refine ⟨⟨actions, read, ?_, ?_⟩, ?_⟩
  · intro place token there
    obtain ⟨disclosure, disclosed, opened⟩ := full.openedAt read there
    obtain ⟨disclosure', disclosed', opened'⟩ := full'.openedAt read there
    obtain ⟨told, told', isTold, isTold', bound⟩ := opened.sameOrRelated opened'
    exact ⟨disclosure, disclosure', told, told', disclosed, disclosed', isTold, isTold', bound⟩
  · intro place token there idemix
    obtain ⟨info, informed, described⟩ :=
      full.describedAt_ownerPlace read there idemix.isNone_eq
    obtain ⟨info', informed', described'⟩ :=
      full'.describedAt_ownerPlace read there idemix.isNone_eq
    obtain ⟨told, told', isTold, isTold', bound⟩ := idemix.sameOrRelated described described'
    exact ⟨info, info', told, told', informed, informed', isTold, isTold', bound⟩
  · intro token _ _ info info' _ _ idemix inspected inspected'
    exact idemix.sameOrRelated (inspectOwner_eq_ok_iff.mp inspected) (inspectOwner_eq_ok_iff.mp inspected')

/-! ## One commitment opened twice -/

namespace Plain

/-- An opening of the commitment with the logarithm 5, for any value. -/
def openingOf (value : UInt64) : Opening :=
  ⟨"EUR", value, 5 - (Scalar.hash (Bytes.ofText "EUR") * 2 + Scalar.ofNat value.toNat * 3)⟩

theorem commitment_openingOf (value : UInt64) :
    (openingOf value).commitment generators = locked.data := by
  have log : Scalar.hash (Bytes.ofText "EUR") * 2 + (Scalar.ofNat value.toNat * 3 +
      ((5 - (Scalar.hash (Bytes.ofText "EUR") * 2 + Scalar.ofNat value.toNat * 3)) * 1 + 0)) = 5 := by
    rw [mul_one, add_zero, ← add_assoc, add_sub_cancel]
  exact congrArg Commitment.mk (eq_of_log log)

/-- An issue of a token to the pseudonym. -/
def toCarol : IssueAction Plain := issue sender.identity [⟨pseudonymous, locked.data⟩]

/-- The metadata of the issue, in which the token has some value. -/
def toCarolWorth (value : UInt64) : RequestMetadata :=
  ⟨[⟨sender.identity, [], [Disclosure.toBytes ⟨openingOf value, none⟩], [pseudonymous],
    [carolInfo []], []⟩], [], .empty⟩

set_option maxRecDepth 4096 in
theorem toCarol_fits : toCarol.Fits where
  issuer := swap_fits.sender
  count := by decide
  outputs := List.forall_mem_singleton.mpr (by decide)
  proof := by decide
  metadata := by decide

set_option maxRecDepth 4096 in
theorem pseudonymous_described : pseudonymous.DescribedBy Plain (carolInfo []) :=
  .plain nofun (Credential.idemix_describedBy (by decide) (by decide) (by decide))

theorem readDisclosure_openingOf (value : UInt64) :
    Disclosure.ofBytes (Disclosure.toBytes ⟨openingOf value, none⟩) = .ok ⟨openingOf value, none⟩ :=
  Disclosure.ofBytes_toBytes (by
    show (Bytes.ofText "EUR").length < Wire.lengthBound
    decide)

theorem toCarol_disclosed (value : UInt64) :
    (requestIssue toCarol []).DisclosedBy generators (toCarolWorth value) [] where
  issues := rfl
  transfers := rfl
  spends := rfl
  issue k bytes told read isTold := by
    obtain rfl := List.mem_singleton.mp (List.mem_of_getElem? read)
    obtain rfl := List.mem_singleton.mp (List.mem_of_getElem? isTold)
    refine ⟨toCarol, IssueAction.ofBytes_toBytes toCarol_fits, rfl, Nat.le_refl 1,
      List.forall_mem_singleton.mpr (by decide), ?_, ?_⟩
    · intro i output disclosure there isDisclosure
      obtain rfl := List.mem_singleton.mp (List.mem_of_getElem? there)
      obtain rfl := List.mem_singleton.mp (List.mem_of_getElem? isDisclosure)
      exact ⟨_, readDisclosure_openingOf value, commitment_openingOf value⟩
    · intro i output info there isInfo
      obtain rfl := List.mem_singleton.mp (List.mem_of_getElem? there)
      obtain rfl := List.mem_singleton.mp (List.mem_of_getElem? isInfo)
      exact pseudonymous_described
  transfer _ _ _ _ absent := nomatch absent

theorem check_toCarol (value : UInt64) : (((Auditor.create parameters none .default).check
    (requestIssue toCarol []) (toCarolWorth value) [] "carol").perform []).1 = .ok () :=
  Auditor.check_eq_ok_iff_inspect.mpr (Auditor.inspect_eq_ok_iff.mpr (toCarol_disclosed value))

set_option maxRecDepth 4096 in
/-- The issue to the pseudonym is accepted with the value 0 and with the value 1. Here everybody knows the
logarithms of the generators, and the difference of the openings relates them. -/
theorem disclosures_bind_toCarol :
    (((Auditor.create parameters none .default).check (requestIssue toCarol []) (toCarolWorth 0) []
      "carol").perform []).1 = .ok () ∧
    (((Auditor.create parameters none .default).check (requestIssue toCarol []) (toCarolWorth 1) []
      "carol").perform []).1 = .ok () ∧
    generators.Related (0 : Scalar) (Scalar.ofNat 0 - Scalar.ofNat 1)
      ((openingOf 0).blinding - (openingOf 1).blinding) ∧
    ∃ told, AuditInfo.ofBytes (carolInfo []) = .ok told ∧ told.SameOrRelated Plain told := by
  obtain ⟨⟨actions, read, openings, owners⟩, -⟩ :=
    Auditor.disclosures_bind (check_toCarol 0) (check_toCarol 1)
  have known : (requestIssue toCarol []).readActions Plain = .ok ([toCarol], []) :=
    TokenRequest.readActions_eq_ok_iff.mpr
      ⟨.cons (IssueAction.ofBytes_toBytes toCarol_fits) .nil, .nil⟩
  obtain ⟨issues, transfers⟩ := actions
  cases known.symm.trans read
  have idemix : pseudonymous.IsIdemix := ⟨_, TypedIdentity.parse_wrap .idemix (by decide), rfl⟩
  refine ⟨check_toCarol 0, check_toCarol 1, ?_, ?_⟩
  · obtain ⟨_, _, told, told', disclosed, disclosed', isTold, isTold', bound⟩ :=
      openings (.ofIssue 0 0) _ rfl
    cases disclosed
    cases disclosed'
    cases (readDisclosure_openingOf 0).symm.trans isTold
    cases (readDisclosure_openingOf 1).symm.trans isTold'
    rcases bound with ⟨-, absurd, -⟩ | related
    · cases absurd
    · have sameType : Scalar.hash (Bytes.ofText "EUR") - Scalar.hash (Bytes.ofText "EUR") = 0 :=
        sub_self _
      exact sameType ▸ related
  · obtain ⟨_, _, told, told', informed, informed', isTold, isTold', bound⟩ :=
      owners (.output (.ofIssue 0 0)) _ rfl idemix
    cases informed
    cases informed'
    cases isTold.symm.trans isTold'
    exact ⟨told, isTold, bound⟩

end Plain

end ConfidentialToken
