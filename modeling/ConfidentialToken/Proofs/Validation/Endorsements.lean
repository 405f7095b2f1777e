import ConfidentialToken.Proofs.Validation.Consumption
import ConfidentialToken.Proofs.Validation.Refusals

/-!
# The order of endorsements

A request carries the entries of auditors in a list that anybody can add to, and the list is no part of
what is signed. The validator looks for the first entry that names an auditor and holds the auditor to it,
whatever else the list has. So the order matters: a request that an auditor has signed is refused when an
invalid entry in the auditor's name stands before the valid one.

What can be said in general is said for all orders of one list together. Some order is accepted exactly if
every named auditor has signed; every order is, exactly if besides that no entry in the name of one of
them is invalid. Where nobody has put in such an entry, the verdict is the same in every order.
-/

namespace ConfidentialToken

/-- Whether an entry of an auditor is valid over a message. -/
def AuditorSignature.isValid (P : Type) [Suite P] (message : Bytes) (entry : AuditorSignature) : Bool :=
  decide (entry.identity.verify P message entry.signature = .ok ())

namespace TokenRequest

/-- The request with other entries of auditors. -/
def reendorsed (request : TokenRequest) (entries : List AuditorSignature) : TokenRequest :=
  { request with auditorSignatures := entries }

variable {P : Type} [Suite P]

/-- An auditor has signed a message: some entry in its name is valid. -/
def EndorsedBy (P : Type) [Suite P] (request : TokenRequest) (message : Bytes) (auditor : Identity) :
    Prop :=
  ∃ entry ∈ request.auditorSignatures, entry.identity = auditor ∧
    auditor.verify P message entry.signature = .ok ()

/-- Every entry in the name of an auditor is valid, if there are any. -/
def OnlyValidBy (P : Type) [Suite P] (request : TokenRequest) (message : Bytes) (auditor : Identity) :
    Prop :=
  ∀ entry ∈ request.auditorSignatures, entry.identity = auditor →
    auditor.verify P message entry.signature = .ok ()

/-- If all auditors that parameters name have signed, there is no invalid entry in the name of one. -/
def Unmixed (pp : PublicParameters P) (request : TokenRequest) (message : Bytes) : Prop :=
  (∀ auditor ∈ pp.auditors, request.EndorsedBy P message auditor) →
    ∀ auditor ∈ pp.auditors, request.OnlyValidBy P message auditor

variable {request : TokenRequest} {message : Bytes} {auditor : Identity}
  {entries : List AuditorSignature}

/-- What is signed does not depend on the entries of auditors. -/
theorem messageToSign_reendorsed (request : TokenRequest) (entries : List AuditorSignature)
    (anchor : String) :
    (request.reendorsed entries).messageToSign anchor = request.messageToSign anchor := rfl

/-- Nor do the actions that are read. -/
theorem readActions_reendorsed (request : TokenRequest) (entries : List AuditorSignature) :
    (request.reendorsed entries).readActions P = request.readActions P := rfl

/-- Whether an auditor has signed does not depend on the order of the entries. -/
theorem endorsedBy_reendorsed_iff (perm : entries.Perm request.auditorSignatures) :
    (request.reendorsed entries).EndorsedBy P message auditor ↔
      request.EndorsedBy P message auditor :=
  exists_congr fun _ => and_congr_left fun _ => perm.mem_iff

/-- Nor does it whether an entry in the name of an auditor is invalid. -/
theorem onlyValidBy_reendorsed_iff (perm : entries.Perm request.auditorSignatures) :
    (request.reendorsed entries).OnlyValidBy P message auditor ↔
      request.OnlyValidBy P message auditor :=
  forall_congr' fun _ => imp_congr_left perm.mem_iff

/-- The first entry of an auditor is valid where it has signed and all of its entries are valid. -/
theorem EndorsedBy.auditedBy (endorsed : request.EndorsedBy P message auditor)
    (valid : request.OnlyValidBy P message auditor) : request.AuditedBy P message auditor := by
  obtain ⟨entry, mem, rfl, -⟩ := endorsed
  obtain ⟨found, listed, same, first⟩ := AuditorSignature.exists_first mem
  exact ⟨found, first, valid found listed same⟩

/-- The entries, in an order in which the valid ones come first. -/
theorem exists_perm_auditedBy (P : Type) [Suite P] (request : TokenRequest) (message : Bytes) :
    ∃ entries, entries.Perm request.auditorSignatures ∧ ∀ auditor,
      request.EndorsedBy P message auditor →
      (request.reendorsed entries).AuditedBy P message auditor := by
  refine ⟨_, List.filter_append_perm (AuditorSignature.isValid P message) _, ?_⟩
  rintro auditor ⟨entry, mem, rfl, verified⟩
  have there : entry ∈ request.auditorSignatures.filter (AuditorSignature.isValid P message) :=
    List.mem_filter.mpr ⟨mem, decide_eq_true verified⟩
  obtain ⟨found, listed, same, first⟩ := AuditorSignature.exists_first there
  refine ⟨found, ?_, same ▸ of_decide_eq_true (List.mem_filter.mp listed).2⟩
  show (_ ++ _ : List AuditorSignature).find? _ = _
  rw [List.find?_append, first, Option.some_or]

/-- An entry that is moved to the front is the first one in its name. -/
theorem verify_of_auditedBy_cons {entry : AuditorSignature}
    (audited : (request.reendorsed (entry :: entries)).AuditedBy P message entry.identity) :
    entry.identity.verify P message entry.signature = .ok () := by
  obtain ⟨found, first, verified⟩ := audited
  have isFirst : (entry :: entries).find? (·.identity = entry.identity) = some entry :=
    List.find?_cons_of_pos (decide_eq_true rfl)
  cases isFirst.symm.trans first
  exact verified

/-- An acceptable request stays acceptable under parameters that name other auditors, with entries that
these have made. -/
theorem Acceptable.reendorsed {pp : PublicParameters P} {ledger : Ledger} {anchor : String}
    {actions : ValidatedActions P} {auditors : List Identity}
    (h : request.Acceptable pp ledger anchor message actions)
    (audited : ∀ auditor ∈ auditors, (request.reendorsed entries).AuditedBy P message auditor) :
    (request.reendorsed entries).Acceptable { pp with auditors } ledger anchor message actions where
  written := h.written
  audited := audited
  read := h.read
  issues action mem :=
    have valid := h.issues action mem
    ⟨valid.wellFormed, valid.authorized, valid.proved⟩
  transfers action mem :=
    have valid := h.transfers action mem
    ⟨valid.wellFormed, valid.stored, valid.proved, valid.released, valid.held⟩
  spentOnce := h.spentOnce
  signed := h.signed

end TokenRequest

namespace Validator

variable {P : Type} [Suite P]

/-- In some order the entries are accepted exactly if every named auditor has signed. -/
theorem exists_perm_checkAuditors_iff (pp : PublicParameters P) (logger : Logger)
    (request : TokenRequest) (message : Bytes) :
    (∃ entries, entries.Perm request.auditorSignatures ∧
      (create pp logger).checkAuditors (request.reendorsed entries) message = .ok ()) ↔
    ∀ auditor ∈ pp.auditors, request.EndorsedBy P message auditor := by
  simp only [checkAuditors_eq_ok_iff]
  constructor
  · rintro ⟨entries, perm, audited⟩ auditor named
    exact (TokenRequest.endorsedBy_reendorsed_iff perm).mp (audited auditor named).exists_entry
  · intro endorsed
    obtain ⟨entries, perm, audited⟩ := request.exists_perm_auditedBy P message
    exact ⟨entries, perm, fun auditor named => audited auditor (endorsed auditor named)⟩

/-- In every order the entries are accepted exactly if every named auditor has signed and no entry in its
name is invalid. -/
theorem forall_perm_checkAuditors_iff (pp : PublicParameters P) (logger : Logger)
    (request : TokenRequest) (message : Bytes) :
    (∀ entries, entries.Perm request.auditorSignatures →
      (create pp logger).checkAuditors (request.reendorsed entries) message = .ok ()) ↔
    ∀ auditor ∈ pp.auditors, request.EndorsedBy P message auditor ∧
      request.OnlyValidBy P message auditor := by
  simp only [checkAuditors_eq_ok_iff]
  constructor
  · intro audited auditor named
    refine ⟨(audited _ (.refl _) auditor named).exists_entry, ?_⟩
    rintro entry mem rfl
    exact TokenRequest.verify_of_auditedBy_cons
      (audited _ (List.perm_cons_erase mem).symm _ named)
  · intro clean entries perm auditor named
    obtain ⟨endorsed, valid⟩ := clean auditor named
    exact ((TokenRequest.endorsedBy_reendorsed_iff perm).mpr endorsed).auditedBy
      ((TokenRequest.onlyValidBy_reendorsed_iff perm).mpr valid)

/-- Without invalid entries beside valid ones, a list in any order is accepted exactly if every named
auditor has signed. -/
theorem checkAuditors_iff_of_unmixed {pp : PublicParameters P} (logger : Logger)
    {request : TokenRequest} {message : Bytes} {entries : List AuditorSignature}
    (unmixed : request.Unmixed pp message) (perm : entries.Perm request.auditorSignatures) :
    (create pp logger).checkAuditors (request.reendorsed entries) message = .ok () ↔
      ∀ auditor ∈ pp.auditors, request.EndorsedBy P message auditor := by
  constructor
  · intro audited
    exact (exists_perm_checkAuditors_iff pp logger request message).mp ⟨entries, perm, audited⟩
  · intro endorsed
    refine (forall_perm_checkAuditors_iff pp logger request message).mpr ?_ entries perm
    exact fun auditor named => ⟨endorsed auditor named, unmixed endorsed auditor named⟩

/-- With other entries of auditors a request gets the same verdict, if the one passes where the other does;
what the validator goes on with does not depend on the entries. -/
theorem validate_reendorsed_alike {pp : PublicParameters P} {logger : Logger} {ledger : Ledger}
    {anchor : String} {request : TokenRequest} {entries : List AuditorSignature}
    (same : ∀ message, request.messageToSign anchor = .ok message →
      ((create pp logger).checkAuditors request message = .ok () ↔
        (create pp logger).checkAuditors (request.reendorsed entries) message = .ok ())) :
    Task.Alike ((create pp logger).validate ledger anchor request)
      ((create pp logger).validate ledger anchor (request.reendorsed entries)) := by
  refine (Task.Alike.refl _).bind fun _ => Task.Alike.bind_lift fun message written => ?_
  have alike := Outcome.Alike.of_failsOnly
    (checkAuditors_failsOnly (create pp logger) request message)
    (checkAuditors_failsOnly (create pp logger) (request.reendorsed entries) message)
    (same message written)
  exact (Task.Alike.lift (alike.inContext _)).bind fun _ => .refl _

/-- The orders of the entries of auditors that are accepted, and the verdict in all orders where no entry
in the name of an auditor is invalid: one result, or errors of one kind. -/
theorem endorsements_reordered (pp : PublicParameters P) (logger : Logger) (ledger : Ledger)
    (anchor : String) (request : TokenRequest) :
    (∀ message,
      ((∃ entries, entries.Perm request.auditorSignatures ∧
          (create pp logger).checkAuditors (request.reendorsed entries) message = .ok ()) ↔
        ∀ auditor ∈ pp.auditors, request.EndorsedBy P message auditor) ∧
      ((∀ entries, entries.Perm request.auditorSignatures →
          (create pp logger).checkAuditors (request.reendorsed entries) message = .ok ()) ↔
        ∀ auditor ∈ pp.auditors, request.EndorsedBy P message auditor ∧
          request.OnlyValidBy P message auditor)) ∧
    ((∀ message, request.messageToSign anchor = .ok message → request.Unmixed pp message) →
      ∀ entries, entries.Perm request.auditorSignatures →
        Task.Alike ((create pp logger).validate ledger anchor request)
          ((create pp logger).validate ledger anchor (request.reendorsed entries)) ∧
        ∀ message, request.messageToSign anchor = .ok message →
          ((create pp logger).checkAuditors (request.reendorsed entries) message = .ok () ↔
            ∀ auditor ∈ pp.auditors, request.EndorsedBy P message auditor)) := by
  refine ⟨fun message => ⟨exists_perm_checkAuditors_iff pp logger request message,
    forall_perm_checkAuditors_iff pp logger request message⟩, fun unmixed entries perm => ?_⟩
  have accepted_iff {entries : List AuditorSignature}
      (perm : entries.Perm request.auditorSignatures) (message : Bytes)
      (written : request.messageToSign anchor = .ok message) :=
    checkAuditors_iff_of_unmixed logger (unmixed message written) perm
  refine ⟨validate_reendorsed_alike fun message written => ?_, accepted_iff perm⟩
  exact (accepted_iff (.refl _) message written).trans (accepted_iff perm message written).symm

end Validator

namespace Plain

/-- Parameters under which the recipient of the swap audits. -/
def audited : PublicParameters Plain := { parameters with auditors := [recipient.identity] }

/-- The entry of the auditor for the reclaim. -/
def endorsement : AuditorSignature :=
  ⟨recipient.identity, Suite.sign Plain (.ofNat 32 1) reclaimMessage⟩

/-- An entry in the name of the auditor that anybody can make. -/
def forgery : AuditorSignature := ⟨recipient.identity, []⟩

/-- An entry of somebody who is no auditor. -/
def strayEntry : AuditorSignature := ⟨sender.identity, []⟩

theorem verify_endorsement : endorsement.identity.verify Plain reclaimMessage endorsement.signature =
    .ok () :=
  verify_recipient reclaimMessage

theorem verify_forgery : forgery.identity.verify Plain reclaimMessage forgery.signature ≠ .ok () := by
  intro verified
  have empty := (verify_eq_ok_iff (.ofNat 32 1) [] (by decide) rawRecipient_fits _).mp verified
  cases empty

theorem endorsed_reclaim {entries : List AuditorSignature} (mem : endorsement ∈ entries) :
    (reclaim.reendorsed entries).EndorsedBy Plain reclaimMessage recipient.identity :=
  ⟨endorsement, mem, rfl, verify_endorsement⟩

/-- The reclaim is acceptable where the auditor's first entry is valid. -/
theorem reendorsed_acceptable {entries : List AuditorSignature}
    (audited : (reclaim.reendorsed entries).AuditedBy Plain reclaimMessage recipient.identity) :
    (reclaim.reendorsed entries).Acceptable Plain.audited (lockedAt 10) "reclaim" reclaimMessage
      ⟨[], [giveBack]⟩ :=
  (reclaim_acceptable (state?_lockedAt 10) (by decide)).reendorsed
    (List.forall_mem_singleton.mpr audited)

theorem validate_endorsed {entries : List AuditorSignature}
    (audited : (reclaim.reendorsed entries).AuditedBy Plain reclaimMessage recipient.identity) :
    (((Validator.create Plain.audited .default).validate (lockedAt 10) "reclaim"
      (reclaim.reendorsed entries)).perform []).1 = .ok ⟨[], [giveBack]⟩ :=
  Validator.validate_eq_ok_iff.mpr ⟨_, reendorsed_acceptable audited⟩

/-- An entry of somebody else does not matter, wherever it stands. -/
theorem strayEntry_reordered :
    (((Validator.create audited .default).validate (lockedAt 10) "reclaim"
      (reclaim.reendorsed [strayEntry, endorsement])).perform []).1 = .ok ⟨[], [giveBack]⟩ := by
  have endorsed : (reclaim.reendorsed [endorsement, strayEntry]).EndorsedBy Plain reclaimMessage
      recipient.identity := endorsed_reclaim List.mem_cons_self
  have valid : (reclaim.reendorsed [endorsement, strayEntry]).OnlyValidBy Plain reclaimMessage
      recipient.identity := by
    refine List.forall_mem_cons.mpr ⟨fun _ => verify_endorsement, List.forall_mem_singleton.mpr ?_⟩
    exact fun same => absurd same (by decide)
  have first := validate_endorsed (endorsed.auditedBy valid)
  have unmixed : ∀ message, (reclaim.reendorsed [endorsement, strayEntry]).messageToSign "reclaim" =
      .ok message → (reclaim.reendorsed [endorsement, strayEntry]).Unmixed audited message := by
    intro message written _
    rw [TokenRequest.messageToSign_reendorsed, messageToSign_reclaim] at written
    cases written
    exact List.forall_mem_singleton.mpr valid
  obtain ⟨alike, -⟩ := (Validator.endorsements_reordered audited .default (lockedAt 10) "reclaim"
    (reclaim.reendorsed [endorsement, strayEntry])).2 unmixed [strayEntry, endorsement] (.swap _ _ _)
  have verdicts := (alike []).1
  rw [first] at verdicts
  exact verdicts.eq_ok

/-- The auditor has signed, and the verdict depends on where a forged entry in its name stands. -/
theorem forgery_reordered :
    [forgery, endorsement].Perm [endorsement, forgery] ∧
    (((Validator.create audited .default).validate (lockedAt 10) "reclaim"
      (reclaim.reendorsed [endorsement, forgery])).perform []).1 = .ok ⟨[], [giveBack]⟩ ∧
    (∃ e, (((Validator.create audited .default).validate (lockedAt 10) "reclaim"
      (reclaim.reendorsed [forgery, endorsement])).perform []).1 = .error e) ∧
    ∃ message, (reclaim.reendorsed [forgery, endorsement]).messageToSign "reclaim" = .ok message ∧
      (∀ auditor ∈ audited.auditors,
        (reclaim.reendorsed [forgery, endorsement]).EndorsedBy Plain message auditor) ∧
      (Validator.create audited .default).checkAuditors (reclaim.reendorsed [forgery, endorsement])
        message ≠ .ok () := by
  have first : (reclaim.reendorsed [endorsement, forgery]).AuditedBy Plain reclaimMessage
      recipient.identity := ⟨endorsement, rfl, verify_endorsement⟩
  have read := (TokenRequest.readActions_reendorsed reclaim [forgery, endorsement]).trans
    (reclaim_acceptable (state?_lockedAt 10) (by decide)).read
  have unaudited : ¬(reclaim.reendorsed [forgery, endorsement]).AuditedBy Plain reclaimMessage
      recipient.identity := fun audited =>
    verify_forgery (TokenRequest.verify_of_auditedBy_cons audited)
  refine ⟨.swap _ _ _, validate_endorsed first, ?_, reclaimMessage, messageToSign_reclaim, ?_, ?_⟩
  · refine (Validator.refused_iff read).mpr fun accepted => ?_
    obtain ⟨message, other⟩ := Validator.validate_eq_ok_iff.mp accepted
    have written := other.written
    rw [TokenRequest.messageToSign_reendorsed, messageToSign_reclaim] at written
    cases written
    exact unaudited (other.audited _ List.mem_cons_self)
  · exact List.forall_mem_singleton.mpr (endorsed_reclaim (List.mem_cons_of_mem _ List.mem_cons_self))
  · intro accepted
    exact unaudited ((Validator.checkAuditors_eq_ok_iff .default).mp accepted _ List.mem_cons_self)

end Plain

end ConfidentialToken
