import ConfidentialToken.Proofs.Audit.Coverage
import ConfidentialToken.Proofs.Metadata.Filtering

/-!
# Who is shown an audited output

The auditor checks the owner of an output against one audit info, and filtering looks up the receiver of
the output in another. For issues the two are the same list; for transfers they are two lists of the
metadata, and nothing compares them. Where they agree, an output that the auditor has accepted is shown
exactly to the holders of the id that its owner was matched to. Where they do not, filtered metadata can
show the output to somebody else.
-/

namespace ConfidentialToken

open Metadata (Slot)

/-! ## What filtering shows -/

/-- The audit info that metadata has for the receiver of the output in a place. -/
def OutputPlace.receiverInfo? (metadata : RequestMetadata) : OutputPlace → Option Bytes
  | ofIssue k i => metadata.issues[k]?.bind (·.receiverAuditInfos[i]?)
  | ofTransfer k i => metadata.transfers[k]?.bind (·.receiverAuditInfos[i]?)

section

variable {lookup : EnrollmentLookup} {ids : List String}

/-- What is disclosed in a slot stays if the receiver's id is wanted, and is empty else. -/
theorem SlotSource.exists_shown {sources : List SlotSource} {slots : List Slot} {i : Nat}
    {source : SlotSource} {disclosure : Bytes}
    (become : List.Forall₂ (SlotSource.Becomes lookup ids) sources slots)
    (there : sources[i]? = some source) (disclosed : source.outputMetadata = some disclosure) :
    ∃ receiver id, source.receiver = some receiver ∧
      lookup receiver source.receiverAuditInfo = .ok id ∧
      (slots.map Slot.outputMetadata)[i]? = some (if id ∈ ids then disclosure else []) := by
  obtain ⟨slot, listed, becomes⟩ := exists_getElem?_of_forall₂ become.flip there
  cases becomes with
  | kept named told wanted disclosed' _ =>
    cases disclosed.symm.trans disclosed'
    exact ⟨_, _, named, told, by simp [listed, wanted]⟩
  | blank named told unwanted =>
    exact ⟨_, _, named, told, by simp [listed, unwanted, Slot.blank]⟩

theorem IssueMetadata.FilteredTo.exists_shown {m filtered : IssueMetadata} {i : Nat}
    {info disclosure : Bytes} (made : m.FilteredTo lookup ids filtered)
    (informed : m.receiverAuditInfos[i]? = some info)
    (disclosed : m.outputsMetadata[i]? = some disclosure) :
    ∃ receiver id, lookup receiver info = .ok id ∧
      filtered.outputsMetadata[i]? = some (if id ∈ ids then disclosure else []) := by
  obtain ⟨slots, become, rfl⟩ := made
  have source := slotSources_getElem?_eq_some_iff.mpr ⟨info, informed, rfl⟩
  obtain ⟨receiver, id, -, shown⟩ := SlotSource.exists_shown become source disclosed
  exact ⟨receiver, id, shown⟩

theorem TransferMetadata.FilteredTo.exists_shown {m filtered : TransferMetadata} {i : Nat}
    {info disclosure : Bytes} (made : m.FilteredTo lookup ids filtered)
    (informed : m.receiverAuditInfos[i]? = some info)
    (disclosed : m.outputsMetadata[i]? = some disclosure) :
    ∃ receiver id, lookup receiver info = .ok id ∧
      filtered.outputsMetadata[i]? = some (if id ∈ ids then disclosure else []) := by
  obtain ⟨slots, become, -, rfl⟩ := made
  have source := slotSources_getElem?_eq_some_iff.mpr ⟨info, informed, rfl⟩
  obtain ⟨receiver, id, -, shown⟩ := SlotSource.exists_shown become source disclosed
  exact ⟨receiver, id, shown⟩

/-- The disclosure in a place stays if the id of its receiver is wanted, and is empty else. -/
theorem RequestMetadata.FilteredTo.exists_shown {metadata filtered : RequestMetadata}
    {place : OutputPlace} {info disclosure : Bytes} (made : metadata.FilteredTo lookup ids filtered)
    (informed : place.receiverInfo? metadata = some info)
    (disclosed : place.disclosure? metadata = some disclosure) :
    ∃ receiver id, lookup receiver info = .ok id ∧
      place.disclosure? filtered = some (if id ∈ ids then disclosure else []) := by
  cases place with
  | ofIssue k i =>
    obtain ⟨m, listed, informed⟩ := Option.bind_eq_some_iff.mp informed
    obtain ⟨m', listed', disclosed⟩ := Option.bind_eq_some_iff.mp disclosed
    cases listed.symm.trans listed'
    obtain ⟨m', there, entry⟩ : ∃ m', filtered.issues[k]? = some m' ∧ m.FilteredTo lookup ids m' :=
      exists_getElem?_of_forall₂ made.issues.flip listed
    obtain ⟨receiver, id, told, shown⟩ := entry.exists_shown informed disclosed
    exact ⟨receiver, id, told, Option.bind_eq_some_iff.mpr ⟨m', there, shown⟩⟩
  | ofTransfer k i =>
    obtain ⟨m, listed, informed⟩ := Option.bind_eq_some_iff.mp informed
    obtain ⟨m', listed', disclosed⟩ := Option.bind_eq_some_iff.mp disclosed
    cases listed.symm.trans listed'
    obtain ⟨m', there, entry⟩ : ∃ m', filtered.transfers[k]? = some m' ∧ m.FilteredTo lookup ids m' :=
      exists_getElem?_of_forall₂ made.transfers.flip listed
    obtain ⟨receiver, id, told, shown⟩ := entry.exists_shown informed disclosed
    exact ⟨receiver, id, told, Option.bind_eq_some_iff.mpr ⟨m', there, shown⟩⟩

end

/-! ## What the auditor has seen -/

variable {P : Type} [PointGroup P]

/-- Nothing opens with an empty disclosure. -/
theorem Token.OpenedBy.ne_nil {token : Token P} {g : Generators P} {disclosure : Bytes}
    (opened : token.OpenedBy g disclosure) : disclosure ≠ [] := by
  obtain ⟨told, read, -⟩ := opened
  rintro rfl
  cases read

/-- The actions of a request that metadata tells all of can be read. -/
theorem TokenRequest.DisclosedBy.exists_actions {g : Generators P} {request : TokenRequest}
    {metadata : RequestMetadata} {spent : List (List (Token P))}
    (full : request.DisclosedBy g metadata spent) : ∃ actions : ValidatedActions P,
      request.readActions P = .ok (actions.issues, actions.transfers) := by
  have issues : ∀ bytes ∈ request.issues, ∃ action : IssueAction P,
      IssueAction.ofBytes bytes = .ok action := by
    intro bytes listed
    obtain ⟨k, there⟩ := List.mem_iff_getElem?.mp listed
    have bound : k < metadata.issues.length := full.issues ▸ (List.getElem?_eq_some_iff.mp there).1
    obtain ⟨action, read, -⟩ := full.issue k bytes _ there (List.getElem?_eq_getElem bound)
    exact ⟨action, read⟩
  have transfers : ∀ bytes ∈ request.transfers, ∃ action : TransferAction P,
      TransferAction.ofBytes bytes = .ok action := by
    intro bytes listed
    obtain ⟨k, there⟩ := List.mem_iff_getElem?.mp listed
    have bound : k < metadata.transfers.length :=
      full.transfers ▸ (List.getElem?_eq_some_iff.mp there).1
    obtain ⟨action, read, -⟩ := full.transfer k bytes _ _ there (List.getElem?_eq_getElem bound)
      (List.getElem?_eq_getElem (full.spends ▸ bound))
    exact ⟨action, read⟩
  obtain ⟨issued, readIssues⟩ := exists_forall₂_iff.mpr issues
  obtain ⟨transferred, readTransfers⟩ := exists_forall₂_iff.mpr transfers
  exact ⟨⟨issued, transferred⟩, readActions_eq_ok_iff.mpr ⟨readIssues, readTransfers⟩⟩

/-- The output in a place is shown in filtered metadata exactly if the id that its owner is matched to
is wanted; else its slot is empty. -/
def Token.ShownToOwner (token : Token P) (ids : List String) (metadata filtered : RequestMetadata)
    (place : OutputPlace) : Prop :=
  ∃ info id disclosure, place.ownerInfo? metadata = some info ∧ token.owner.MatchedTo info id ∧
    place.disclosure? metadata = some disclosure ∧ disclosure ≠ [] ∧
    place.disclosure? filtered = some (if id ∈ ids then disclosure else [])

/-- When the auditor accepts a request and its metadata can be filtered, each owned output is shown
exactly to the holders of the id that the auditor matched its owner to, if it comes from an issue or if
the receiver's audit info is that of the owner. -/
theorem Metadata.filterBy_shows_owned {pp : PublicParameters P} {signer : Option Signer}
    {parent logger : Logger} {txId : String} {request : TokenRequest}
    {metadata filtered : RequestMetadata} {shown : List (List (Token P))} {ids : List String}
    {log records : List LogRecord}
    (audited : (((Auditor.create pp signer parent).check request metadata shown txId).perform
      log).1 = .ok ())
    (success : ((filterBy Identity.enrollmentId logger ids metadata).perform records).1 =
      .ok filtered) :
    ∃ actions : ValidatedActions P, request.readActions P = .ok (actions.issues, actions.transfers) ∧
      ∀ (place : OutputPlace) (token : Token P), place.output? actions = some token →
        token.isRedeemed = false →
        (∀ k i, place = .ofTransfer k i →
          place.receiverInfo? metadata = place.ownerInfo? metadata) →
        token.ShownToOwner ids metadata filtered place := by
  have full : request.DisclosedBy pp.generators metadata shown :=
    Auditor.inspect_eq_ok_iff.mp (Auditor.check_eq_ok_iff_inspect.mp audited)
  obtain ⟨actions, read⟩ := full.exists_actions
  refine ⟨actions, read, fun place token there owned tied => ?_⟩
  obtain ⟨⟨disclosure, disclosed, opened⟩, info, informed, inspected⟩ := full.toldAt read there owned
  have described := Auditor.inspectOwner_eq_ok_iff.mp (inspected none 0)
  have receiver : place.receiverInfo? metadata = some info := by
    cases place with
    | ofIssue k i => exact informed
    | ofTransfer k i => rw [tied k i rfl, informed]
  obtain ⟨receiver, id, found, shown⟩ :=
    (filterBy_eq_ok_iff.mp success).exists_shown receiver disclosed
  exact ⟨info, id, disclosure, informed, described.matchedTo found, disclosed, opened.ne_nil, shown⟩

namespace Plain

theorem readActions_reclaim : reclaim.readActions Plain = .ok ([], [giveBack]) :=
  TokenRequest.readActions_eq_ok_iff.mpr
    ⟨.nil, .cons (TransferAction.ofBytes_toBytes giveBack_fits) .nil⟩

/-- The token that the reclaim makes is shown to the sender, who owns it. -/
theorem reclaim_shown : ∃ filtered,
    ((Metadata.filterBy Identity.enrollmentId .default ["alice"] reclaimMetadata).perform []).1 =
      .ok filtered ∧
    Token.ShownToOwner (P := Plain) ⟨sender.identity, locked.data⟩ ["alice"] reclaimMetadata filtered
      (.ofTransfer 0 0) := by
  have audited : (((Auditor.create parameters none .default).check reclaim reclaimMetadata [[locked]]
      "reclaim").perform []).1 = .ok () :=
    Auditor.check_eq_ok_iff_inspect.mpr (Auditor.inspect_eq_ok_iff.mpr reclaim_disclosed)
  have become : List.Forall₂ (SlotSource.Becomes Identity.enrollmentId ["alice"])
      [⟨some sender.identity, sender.auditInfo, some (Disclosure.toBytes ⟨lockedOpening, none⟩),
        some sender.auditInfo⟩] _ :=
    .cons (.kept rfl enrollmentId_sender (List.mem_singleton_self _) rfl rfl) .nil
  have success : ((Metadata.filterBy Identity.enrollmentId .default ["alice"]
      reclaimMetadata).perform []).1 = .ok ⟨[], [_], .empty⟩ :=
    Metadata.filterBy_eq_ok_iff.mpr
      (TransferMetadata.FilteredTo.alone ⟨_, become, fun _ => Nat.le_refl 1, rfl⟩)
  obtain ⟨⟨issues, transfers⟩, read, shows⟩ := Metadata.filterBy_shows_owned audited success
  cases readActions_reclaim.symm.trans read
  exact ⟨_, success, shows (.ofTransfer 0 0) _ rfl (by decide) fun _ _ _ => rfl⟩

end Plain

/-! ## Receivers of transfers -/

/-- The metadata of a request in which the transfers have other receivers, with their audit infos. -/
def RequestMetadata.redirected (metadata : RequestMetadata)
    (parties : TransferMetadata → List (Identity × Bytes)) : RequestMetadata :=
  { metadata with
    transfers := metadata.transfers.map fun m =>
      { m with
        receivers := (parties m).map Prod.fst
        receiverAuditInfos := (parties m).map Prod.snd } }

/-- The auditor does not look at the receivers of transfers. -/
theorem TokenRequest.DisclosedBy.redirected {g : Generators P} {request : TokenRequest}
    {metadata : RequestMetadata} {spent : List (List (Token P))}
    (full : request.DisclosedBy g metadata spent)
    (parties : TransferMetadata → List (Identity × Bytes)) :
    request.DisclosedBy g (metadata.redirected parties) spent where
  issues := full.issues
  transfers := by simpa [RequestMetadata.redirected] using full.transfers
  spends := by simpa [RequestMetadata.redirected] using full.spends
  issue := full.issue
  transfer k bytes told tokens read isTold isShown := by
    obtain ⟨m, listed, rfl⟩ : ∃ m, metadata.transfers[k]? = some m ∧
        { m with
          receivers := (parties m).map Prod.fst
          receiverAuditInfos := (parties m).map Prod.snd } = told := by
      simpa [RequestMetadata.redirected] using isTold
    obtain ⟨action, isAction, h⟩ := full.transfer k bytes m tokens read listed isShown
    exact ⟨action, isAction, h.spends, h.senders, h.sender, h.disclosures, h.infos, h.opened, h.described⟩

namespace Plain

/-- The metadata of the reclaim, with the recipient of the swap as the receiver of the token. -/
def misdirected : RequestMetadata :=
  reclaimMetadata.redirected fun _ => [(recipient.identity, recipient.auditInfo)]

/-- The auditor accepts metadata of which the output is shown to the recipient of the swap, while it was
matched to the sender. -/
theorem misdirected_shown :
    (((Auditor.create parameters none .default).check reclaim misdirected [[locked]]
      "reclaim").perform []).1 = .ok () ∧
    ∃ filtered, ((Metadata.filterBy Identity.enrollmentId .default ["bob"]
        misdirected).perform []).1 = .ok filtered ∧
      ∃ actions : ValidatedActions Plain,
        reclaim.readActions Plain = .ok (actions.issues, actions.transfers) ∧
        ∃ (place : OutputPlace) (token : Token Plain) (info : Bytes),
          place.output? actions = some token ∧ token.isRedeemed = false ∧
          place.ownerInfo? misdirected = some info ∧ token.owner.MatchedTo info "alice" ∧
          place.disclosure? filtered = place.disclosure? misdirected ∧
          place.disclosure? filtered ≠ some [] := by
  have told := reclaim_disclosed.redirected fun _ => [(recipient.identity, recipient.auditInfo)]
  have become : List.Forall₂ (SlotSource.Becomes Identity.enrollmentId ["bob"])
      [⟨some recipient.identity, recipient.auditInfo,
        some (Disclosure.toBytes ⟨lockedOpening, none⟩), some sender.auditInfo⟩] _ :=
    .cons (.kept rfl (enrollmentId_recipient (by decide)) (List.mem_singleton_self _) rfl rfl) .nil
  have success : ((Metadata.filterBy Identity.enrollmentId .default ["bob"]
      misdirected).perform []).1 = .ok ⟨[], [_], .empty⟩ :=
    Metadata.filterBy_eq_ok_iff.mpr
      (TransferMetadata.FilteredTo.alone ⟨_, become, fun _ => Nat.le_refl 1, rfl⟩)
  have owner : sender.identity.DescribedBy Plain sender.auditInfo := .plain nofun sender_described
  refine ⟨Auditor.check_eq_ok_iff_inspect.mpr (Auditor.inspect_eq_ok_iff.mpr told), _, success,
    ⟨[], [giveBack]⟩, readActions_reclaim, .ofTransfer 0 0, ⟨sender.identity, locked.data⟩,
    sender.auditInfo, rfl, by decide, rfl, owner.matchedTo enrollmentId_sender, rfl, ?_⟩
  have opened : locked.OpenedBy generators (Disclosure.toBytes ⟨lockedOpening, none⟩) :=
    opened_lockedOpening rfl
  exact fun empty => opened.ne_nil (Option.some.inj empty)

end Plain

end ConfidentialToken
