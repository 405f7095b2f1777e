import ConfidentialToken.Proofs.Ledger.Ownership
import ConfidentialToken.Proofs.Validation.Dependence
import ConfidentialToken.Proofs.Wire.Types

/-!
# Who can sign

Identities are bytes that anybody may choose, and three readers look at them: the one that tells whether
they are scripts, the one that reads scripts, and the one that finds the key of a signer. What signs is of
a plain kind for all three: it is the one typed form of one raw identity with a key, and no script. So
whatever requests spend belongs to such an identity, or to a script that is open to one.
-/

namespace ConfidentialToken

open Wire.Codec

/-! ## Forms that tell what was written -/

namespace Wire.Codec

theorem encode_sized_injective (short : Fault) : Function.Injective (sized short).encode := by
  intro value value' same
  have counts : (length.encode value.length).length = (length.encode value'.length).length := by
    rw [length_encode_length, length_encode_length]
  exact (List.append_inj same counts).2

theorem encode_text_injective : Function.Injective text.encode := by
  intro value value' same
  have read := congrArg Bytes.toText? (encode_sized_injective .shortOfText same)
  rw [Bytes.toText?_ofText, Bytes.toText?_ofText] at read
  exact Option.some.inj read

end Wire.Codec

theorem X509Identity.encode_injective : Function.Injective codec.encode := by
  intro raw raw' same
  have keys : raw.publicKey.bytes.length = raw'.publicKey.bytes.length :=
    raw.publicKey.2.trans raw'.publicKey.2.symm
  obtain ⟨ids, keys⟩ := List.append_inj' same keys
  obtain ⟨id, key⟩ := raw
  obtain ⟨id', key'⟩ := raw'
  obtain rfl : id = id' := encode_text_injective ids
  obtain rfl : key = key' := Subtype.ext keys
  rfl

theorem IdemixIdentity.encode_injective {P : Type} [PointGroup P] [PointGroup.LawfulEncoding P] :
    Function.Injective (codec (P := P)).encode := by
  intro raw raw' same
  have short (raw : IdemixIdentity P) : (codec.encode raw).length < Wire.lengthBound := by
    have length : (codec.encode raw).length = 32 + 32 := by
      show List.length (_ ++ _) = _
      rw [List.length_append]
      exact congrArg₂ _ (PointGroup.encode raw.pseudonym.point).2 raw.publicKey.2
    rw [length]
    decide
  have read := (faithful.roundTrips (short raw)).read_encode
  rw [same, (faithful.roundTrips (short raw')).read_encode] at read
  exact (Except.ok.inj read).symm

theorem IdentityKind.tag_injective : Function.Injective tag := by
  intro kind kind' same
  cases kind <;> cases kind' <;> first | rfl | exact absurd same (by decide)

/-- A typed form tells the kind and the raw identity, however long this is. -/
theorem TypedIdentity.wrap_inj {kind kind' : IdentityKind} {raw raw' : Identity} :
    wrap kind raw = wrap kind' raw' ↔ kind = kind' ∧ raw = raw' := by
  constructor
  · intro same
    have forms : text.encode kind.tag ++ Identity.codec.encode raw =
        text.encode kind'.tag ++ Identity.codec.encode raw' := congrArg Identity.bytes same
    have read := roundTrips_text kind.tag_fits (Identity.codec.encode raw)
    rw [forms, roundTrips_text kind'.tag_fits] at read
    obtain ⟨tags, raws⟩ := Prod.mk.inj (Except.ok.inj read)
    exact ⟨IdentityKind.tag_injective tags.symm,
      congrArg Identity.mk (encode_sized_injective .endOfInput raws.symm)⟩
  · rintro ⟨rfl, rfl⟩
    rfl

/-! ## Plain identities -/

/-- A raw identity of one of the kinds that have a key. -/
inductive PlainIdentity (P : Type) where
  | x509 (raw : X509Identity)
  | idemix (raw : IdemixIdentity P)

section

variable {P : Type} [PointGroup P]

namespace PlainIdentity

/-- The kind of the raw identity. -/
def kind : PlainIdentity P → IdentityKind
  | x509 _ => .x509
  | idemix _ => .idemix

/-- The raw identity as bytes. -/
def raw : PlainIdentity P → Identity
  | x509 raw => ⟨X509Identity.codec.encode raw⟩
  | idemix raw => ⟨IdemixIdentity.codec.encode raw⟩

/-- The key of the raw identity. -/
def publicKey : PlainIdentity P → Block 32
  | x509 raw => raw.publicKey
  | idemix raw => raw.publicKey

/-- The typed form of the raw identity. -/
def toIdentity (plain : PlainIdentity P) : Identity := TypedIdentity.wrap plain.kind plain.raw

theorem toIdentity_injective [PointGroup.LawfulEncoding P] :
    Function.Injective (toIdentity (P := P)) := by
  intro plain plain' same
  obtain ⟨kinds, raws⟩ := TypedIdentity.wrap_inj.mp same
  have forms := congrArg Identity.bytes raws
  cases plain with
  | x509 raw =>
    cases plain' with
    | x509 raw' => exact congrArg x509 (X509Identity.encode_injective forms)
    | idemix raw' => cases kinds
  | idemix raw =>
    cases plain' with
    | x509 raw' => cases kinds
    | idemix raw' => exact congrArg idemix (IdemixIdentity.encode_injective forms)

theorem isScript_toIdentity (plain : PlainIdentity P) (fits : plain.raw.Fits) :
    Script.isScript plain.toIdentity = false := by
  unfold toIdentity
  rw [Script.isScript_wrap _ fits]
  cases plain <;> rfl

end PlainIdentity

/-- An identity is the typed form of a raw identity with a key, of one alone, and it is no script. -/
structure Identity.IsPlain (P : Type) [PointGroup P] (identity : Identity) : Prop where
  exists_unique : ∃! plain : PlainIdentity P, plain.toIdentity = identity
  isScript : Script.isScript identity = false

/-- Nobody is not plain. -/
theorem Identity.IsPlain.isNone {identity : Identity} (plain : identity.IsPlain P) :
    identity.isNone = false := by
  obtain ⟨⟨form, rfl, -⟩, -⟩ := plain
  -- a typed form begins with the eight bytes of the length of its tag
  have begins : 8 ≤ form.toIdentity.bytes.length := by
    show 8 ≤ List.length ((length.encode _ ++ _) ++ _)
    rw [List.length_append, List.length_append, length_encode_length]
    omega
  refine List.isEmpty_eq_false_iff.mpr fun none => ?_
  rw [none] at begins
  exact absurd begins (by decide)

end

section

variable {P : Type} [Suite P] [PointGroup.LawfulEncoding P] {identity : Identity}

/-- An identity has a key exactly if it is the typed form of a raw identity with this key. -/
theorem Identity.verifyingKey_eq_ok_iff {key : Block 32} :
    identity.verifyingKey P = .ok key ↔ ∃ plain : PlainIdentity P,
      plain.raw.Fits ∧ plain.toIdentity = identity ∧ plain.publicKey = key := by
  unfold verifyingKey
  constructor
  · intro found
    obtain ⟨typed, parsed, found⟩ := Outcome.bind_eq_ok_iff.mp found
    obtain ⟨kind, named, found⟩ := Outcome.bind_eq_ok_iff.mp found
    obtain ⟨form, fits⟩ := TypedIdentity.eq_wrap_of_parse parsed named
    -- the bytes under the tag are those that the raw identity is written as
    cases kind with
    | x509 =>
      obtain ⟨raw, read, ⟨⟩⟩ := Outcome.bind_eq_ok_iff.mp found
      have written : (PlainIdentity.x509 raw : PlainIdentity P).raw = typed.identity :=
        congrArg mk (X509Identity.faithful.exact.encode_of_read read)
      exact ⟨.x509 raw, written ▸ fits, form ▸ congrArg (TypedIdentity.wrap .x509) written, rfl⟩
    | idemix =>
      obtain ⟨raw, read, ⟨⟩⟩ := Outcome.bind_eq_ok_iff.mp found
      have written : (PlainIdentity.idemix raw).raw = typed.identity :=
        congrArg mk (IdemixIdentity.faithful.exact.encode_of_read read)
      exact ⟨.idemix raw, written ▸ fits, form ▸ congrArg (TypedIdentity.wrap .idemix) written, rfl⟩
    | script => cases found
  · rintro ⟨plain, fits, rfl, rfl⟩
    unfold PlainIdentity.toIdentity
    rw [TypedIdentity.parse_wrap _ fits]
    refine Outcome.bind_eq_ok_iff.mpr ⟨_, rfl, Outcome.bind_eq_ok_iff.mpr ⟨plain.kind, ?_, ?_⟩⟩
    · cases plain <;> rfl
    · cases plain with
      | x509 raw =>
        have read := (X509Identity.faithful.roundTrips fits).read_encode
        exact Outcome.bind_eq_ok_iff.mpr ⟨raw, read, rfl⟩
      | idemix raw =>
        have read := (IdemixIdentity.faithful.roundTrips fits).read_encode
        exact Outcome.bind_eq_ok_iff.mpr ⟨raw, read, rfl⟩

theorem Identity.verify_eq_ok_iff {message signature : Bytes} :
    identity.verify P message signature = .ok () ↔ ∃ plain : PlainIdentity P, plain.raw.Fits ∧
      plain.toIdentity = identity ∧
      Suite.verifySignature P plain.publicKey message signature = .ok () := by
  simp only [verify, Outcome.bind_eq_ok_iff, verifyingKey_eq_ok_iff, Outcome.mapError_eq_ok_iff]
  constructor
  · rintro ⟨_, ⟨plain, fits, form, rfl⟩, verified⟩
    exact ⟨plain, fits, form, verified⟩
  · rintro ⟨plain, fits, form, verified⟩
    exact ⟨_, ⟨plain, fits, form, rfl⟩, verified⟩

/-- Who signs is plain. -/
theorem Identity.IsPlain.of_verify {message signature : Bytes}
    (verified : identity.verify P message signature = .ok ()) : identity.IsPlain P := by
  obtain ⟨plain, fits, rfl, -⟩ := verify_eq_ok_iff.mp verified
  exact ⟨⟨plain, rfl, fun _ same => PlainIdentity.toIdentity_injective same⟩,
    plain.isScript_toIdentity fits⟩

/-! ## Signers of accepted requests -/

namespace TokenRequest.Acceptable

variable {pp : PublicParameters P} {ledger : Ledger} {anchor : String} {request : TokenRequest}
  {message : Bytes} {actions : ValidatedActions P} {transfer : TransferAction P} {input : ActionInput P}

/-- All signers that an accepted request needs are plain. -/
theorem isPlain_of_mem_signers (h : request.Acceptable pp ledger anchor message actions)
    {signer : Identity} (mem : signer ∈ actions.signers ledger.time) : signer.IsPlain P := by
  obtain ⟨_, -, verified⟩ := exists_mem_of_forall₂ h.signed.flip mem
  exact .of_verify verified

theorem isPlain_issuer (h : request.Acceptable pp ledger anchor message actions)
    {issue : IssueAction P} (mem : issue ∈ actions.issues) : issue.issuer.IsPlain P :=
  h.isPlain_of_mem_signers (List.mem_append_left _ (List.mem_map_of_mem mem))

theorem isPlain_extraSigner (h : request.Acceptable pp ledger anchor message actions)
    (htransfer : transfer ∈ actions.transfers) {signer : Identity}
    (mem : signer ∈ transfer.extraSigners) : signer.IsPlain P :=
  h.isPlain_of_mem_signers (List.mem_append_right _
    (List.mem_flatMap.mpr ⟨transfer, htransfer, List.mem_append_right _ mem⟩))

/-- The party entitled to an input is plain. -/
theorem isPlain_entitledAt (h : request.Acceptable pp ledger anchor message actions)
    (htransfer : transfer ∈ actions.transfers) (hinput : input ∈ transfer.inputs) :
    (input.token.owner.entitledAt ledger.time).IsPlain P :=
  h.isPlain_of_mem_signers (List.mem_append_right _ (List.mem_flatMap.mpr
    ⟨transfer, htransfer, List.mem_append_left _ (List.mem_map.mpr ⟨input, hinput, rfl⟩)⟩))

/-- An owner that is no script signs itself. -/
theorem isPlain_owner (h : request.Acceptable pp ledger anchor message actions)
    (htransfer : transfer ∈ actions.transfers) (hinput : input ∈ transfer.inputs)
    (plain : Script.isScript input.token.owner = false) : input.token.owner.IsPlain P :=
  Identity.entitledAt_plain plain ledger.time ▸ h.isPlain_entitledAt htransfer hinput

/-- An owner that is a script can be read, and the party that it is open to signs. -/
theorem exists_isPlain_spender (h : request.Acceptable pp ledger anchor message actions)
    (htransfer : transfer ∈ actions.transfers) (hinput : input ∈ transfer.inputs)
    (isScript : Script.isScript input.token.owner = true) :
    ∃ script, Script.ofIdentity input.token.owner = .ok script ∧
      (script.spender ledger.time).IsPlain P := by
  obtain ⟨script, read, -⟩ := (h.transfers transfer htransfer).released input hinput isScript
  have entitled := h.isPlain_entitledAt htransfer hinput
  rw [Identity.entitledAt_script isScript read] at entitled
  exact ⟨script, read, entitled⟩

/-- What is spent is open to a party that is plain. -/
theorem exists_isPlain_party (h : request.Acceptable pp ledger anchor message actions) {id : TokenId}
    (spent : id ∈ actions.spent) {stored : Bytes} (there : ledger.state? id = some stored)
    {token : Token P} (read : Token.ofBytes stored = .ok token) :
    ∃ party, token.owner.MaySpend ledger.time party ∧ party.IsPlain P := by
  obtain ⟨transfer, htransfer, mem⟩ := List.mem_flatMap.mp spent
  obtain ⟨input, hinput, rfl⟩ := List.mem_map.mp mem
  have valid := h.transfers transfer htransfer
  -- the bytes on the ledger are those of the input's token, so they read as that token
  obtain rfl : stored = input.token.toBytes :=
    Option.some.inj (there.symm.trans (valid.stored input hinput))
  have readBack := Token.ofBytes_toBytes (h.inputs_fit transfer htransfer input hinput)
  obtain rfl : input.token = token := Except.ok.inj (readBack.symm.trans read)
  exact ⟨_, valid.maySpend hinput, h.isPlain_entitledAt htransfer hinput⟩

end TokenRequest.Acceptable

/-- Only plain identities sign: bytes that are the one typed form of one raw identity with a key, and not
those of a script. So among the actions that are read from an accepted request all issuers are plain, all
extra signers, all owners of inputs that are no scripts, and the parties that scripts among the owners are
open to. Over whole runs no token leaves the ledger unless a plain party may spend it; nobody and scripts
are never such a party. -/
theorem PlainIdentity.only_signers (P : Type) [Suite P] [PointGroup.LawfulEncoding P] :
    (∀ (identity : Identity) message signature, identity.verify P message signature = .ok () →
      identity.IsPlain P) ∧
    (∀ identity : Identity, identity.IsPlain P →
      identity.isNone = false ∧ Script.isScript identity = false) ∧
    (∀ (pp : PublicParameters P) logger ledger anchor request log actions,
      (((Validator.create pp logger).validate ledger anchor request).perform log).1 = .ok actions →
      request.readActions P = .ok (actions.issues, actions.transfers) ∧
      (∀ issue ∈ actions.issues, issue.issuer.IsPlain P) ∧
      ∀ transfer ∈ actions.transfers, (∀ signer ∈ transfer.extraSigners, signer.IsPlain P) ∧
        ∀ input ∈ transfer.inputs,
          (Script.isScript input.token.owner = false → input.token.owner.IsPlain P) ∧
          (Script.isScript input.token.owner = true → ∃ script,
            Script.ofIdentity input.token.owner = .ok script ∧
              (script.spender ledger.time).IsPlain P)) ∧
    ∀ time (events : List (Event P)) event id stored (token : Token P),
      (Run.after time events).ledger.state? id = some stored → Token.ofBytes stored = .ok token →
      ((Run.after time events).step event).ledger.state? id = none →
      ∃ party, token.owner.MaySpend (Run.after time events).ledger.time party ∧ party.IsPlain P := by
  refine ⟨fun _ _ _ => .of_verify, fun _ plain => ⟨plain.isNone, plain.isScript⟩, ?_, ?_⟩
  · intro pp logger ledger anchor request log actions accepted
    obtain ⟨_, acceptable⟩ := Validator.validate_eq_ok_iff.mp accepted
    refine ⟨acceptable.read, fun _ => acceptable.isPlain_issuer, fun transfer htransfer => ?_⟩
    refine ⟨fun _ => acceptable.isPlain_extraSigner htransfer, fun input hinput => ?_⟩
    exact ⟨acceptable.isPlain_owner htransfer hinput, acceptable.exists_isPlain_spender htransfer hinput⟩
  · intro time events event id stored token there read gone
    have loses : (Run.after time events).ledger.Loses ((Run.after time events).step event).ledger id :=
      ⟨there ▸ nofun, gone⟩
    rcases (Run.after time events).step_loses event with
      none | ⟨applied, logger, message, -, through, spends⟩
    · exact absurd loses (none id)
    · exact through.acceptable.exists_isPlain_party (spends id loses) there read

end

namespace Plain

/-- The reclaim of the swap gives the token back; it is signed by a plain identity, and that is one that
may spend the token. -/
theorem reclaim_isPlain :
    sender.identity.IsPlain Plain ∧
    reclaim.readActions Plain = .ok ([], [giveBack]) ∧
    (∃ script, Script.ofIdentity locked.owner = .ok script ∧ (script.spender 10).IsPlain Plain) ∧
    ∃ party, locked.owner.MaySpend (Run.after 0 mintAndWait).ledger.time party ∧
      party.IsPlain Plain := by
  obtain ⟨signs, -, accepted, runs⟩ := PlainIdentity.only_signers Plain
  have late : ¬(lockedAt 10).time < 10 := by decide
  have acceptable := reclaim_acceptable (state?_lockedAt 10) late
  obtain ⟨read, -, transfers⟩ := accepted parameters .default (lockedAt 10) "reclaim" reclaim []
    ⟨[], [giveBack]⟩ (Validator.validate_eq_ok_iff.mpr ⟨_, acceptable⟩)
  obtain ⟨-, inputs⟩ := transfers giveBack (List.mem_singleton_self _)
  refine ⟨signs _ _ _ (verify_sender []), read, ?_, ?_⟩
  · exact (inputs ⟨lockedId, locked⟩ (List.mem_singleton_self _)).2 isScript_locked
  · exact runs _ _ _ _ _ _ state?_lockedId ofBytes_locked state?_lockedId_reclaimed

end Plain

end ConfidentialToken
