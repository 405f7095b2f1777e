import ConfidentialToken.Proofs.Audit.Disclosure
import ConfidentialToken.Proofs.Task.Reports

/-!
# What is reported

Reports are read by others than those who hold the metadata. The auditor reports nothing that it was told.
Filtering does: it names the enrollment ids of receivers, which their audit infos tell. All records of a
filtering that succeeds are computed here from the slots of the metadata (`Metadata.reports_filterBy`),
and two filterings that keep the same slots are told apart by their records exactly when these ids, or
the numbers of disclosures that are kept, differ.
-/

namespace ConfidentialToken

open Metadata (Slot)

variable {lookup : EnrollmentLookup} {ids : List String} {log : Logger}

/-! ## The records of a slot -/

namespace SlotSource

/-- The enrollment id that is told of a slot's receiver. -/
def told? (lookup : EnrollmentLookup) (source : SlotSource) : Option String :=
  source.receiver.bind fun receiver => (lookup receiver source.receiverAuditInfo).toOption

/-- Whether the receiver of a slot has one of the ids. -/
def isKept (lookup : EnrollmentLookup) (ids : List String) (source : SlotSource) : Bool :=
  (source.told? lookup).any fun id => decide (id ∈ ids)

/-- Whether a slot is kept and holds a disclosure. -/
def isDisclosed (lookup : EnrollmentLookup) (ids : List String) (source : SlotSource) : Bool :=
  source.isKept lookup ids && source.outputMetadata.any fun metadata => !metadata.isEmpty

/-- What is reported of a slot of an issue. -/
def issueRecords (lookup : EnrollmentLookup) (log : Logger) (ids : List String)
    (source : SlotSource) : List LogRecord :=
  match source.told? lookup with
  | none => []
  | some id => if id ∈ ids then [] else [⟨log.target, s!"skipping issue for [{id}]"⟩]

/-- What is reported of a slot of a transfer. -/
def transferRecords (lookup : EnrollmentLookup) (log : Logger) (ids : List String)
    (source : SlotSource) : List LogRecord :=
  match source.told? lookup with
  | none => []
  | some id =>
    if id ∈ ids then [⟨log.target, s!"keeping transfer for [{id}]"⟩]
    else [⟨log.target, s!"skipping transfer for [{id}]"⟩]

variable {source source' : SlotSource}

theorem told?_eq {receiver : Identity} {id : String} (named : source.receiver = some receiver)
    (told : lookup receiver source.receiverAuditInfo = .ok id) : source.told? lookup = some id := by
  rw [told?, named, Option.bind_some, told]
  rfl

theorem issueRecords_eq {id : String} (told : source.told? lookup = some id) :
    source.issueRecords lookup log ids =
      if id ∈ ids then [] else [⟨log.target, s!"skipping issue for [{id}]"⟩] := by
  rw [issueRecords, told]

theorem transferRecords_eq {id : String} (told : source.told? lookup = some id) :
    source.transferRecords lookup log ids =
      if id ∈ ids then [⟨log.target, s!"keeping transfer for [{id}]"⟩]
      else [⟨log.target, s!"skipping transfer for [{id}]"⟩] := by
  rw [transferRecords, told]

/-- Of a slot that becomes something an enrollment id is told. -/
theorem Becomes.exists_told? {slot : Slot} (h : source.Becomes lookup ids slot) :
    ∃ id, source.told? lookup = some id := by
  cases h with
  | kept named told => exact ⟨_, told?_eq named told⟩
  | blank named told => exact ⟨_, told?_eq named told⟩

/-- So it is told of all slots that become something. -/
theorem exists_told? {sources : List SlotSource} {slots : List Slot}
    (become : List.Forall₂ (SlotSource.Becomes lookup ids) sources slots) :
    ∀ source ∈ sources, ∃ id, source.told? lookup = some id := by
  intro source listed
  obtain ⟨slot, -, becomes⟩ := exists_mem_of_forall₂ become.flip listed
  exact becomes.exists_told?

/-- What is counted of the slots afterwards is what was disclosed of those that are kept. -/
theorem Becomes.isDisclosed_eq {slot : Slot} (h : source.Becomes lookup ids slot) :
    source.isDisclosed lookup ids = !slot.outputMetadata.isEmpty := by
  cases h with
  | kept named told wanted disclosed _ =>
    simp [isDisclosed, isKept, told?_eq named told, wanted, disclosed]
  | blank named told unwanted =>
    simp [isDisclosed, isKept, told?_eq named told, unwanted, Slot.blank]

/-- The slots that are disclosed are as many afterwards. -/
theorem length_filter_isDisclosed {sources : List SlotSource} {slots : List Slot}
    (become : List.Forall₂ (SlotSource.Becomes lookup ids) sources slots) :
    (sources.filter (isDisclosed lookup ids)).length =
      (slots.filter fun slot => !slot.outputMetadata.isEmpty).length := by
  induction become with
  | nil => rfl
  | cons first _ ih =>
    simp only [List.filter_cons, first.isDisclosed_eq]
    split
    · rw [List.length_cons, List.length_cons, ih]
    · exact ih

end SlotSource

/-! ## The records of a filtering -/

/-- What is reported of the metadata of an issue: the ids of the slots that are not kept. -/
def IssueMetadata.records (lookup : EnrollmentLookup) (log : Logger) (ids : List String)
    (m : IssueMetadata) : List LogRecord :=
  m.slotSources.flatMap (SlotSource.issueRecords lookup log ids)

/-- How many disclosures are kept of the metadata of a transfer. -/
def TransferMetadata.disclosed (lookup : EnrollmentLookup) (ids : List String)
    (m : TransferMetadata) : Nat :=
  (m.slotSources.filter (SlotSource.isDisclosed lookup ids)).length

/-- The message that counts disclosures. -/
def disclosedMessage (kept all : Nat) : String :=
  s!"keeping transfer with [{kept}] out of [{all}] outputs"

/-- What is reported of the metadata of a transfer: the ids of all slots, and how many disclosures are
kept. -/
def TransferMetadata.records (lookup : EnrollmentLookup) (log : Logger) (ids : List String)
    (m : TransferMetadata) : List LogRecord :=
  m.slotSources.flatMap (SlotSource.transferRecords lookup log ids) ++
    [⟨log.target, disclosedMessage (m.disclosed lookup ids) m.outputsMetadata.length⟩]

/-- What is reported of the metadata of a request: the records of its entries, and how many there are. -/
def RequestMetadata.records (lookup : EnrollmentLookup) (log : Logger) (ids : List String)
    (m : RequestMetadata) : List LogRecord :=
  m.issues.flatMap (IssueMetadata.records lookup log ids) ++
    (m.transfers.flatMap (TransferMetadata.records lookup log ids) ++
      [⟨log.target, s!"filtered metadata for {ids.length} enrollment IDs from " ++
        s!"[{m.issues.length}:{m.transfers.length}] to [{m.issues.length}:{m.transfers.length}]"⟩])

namespace Metadata

/-- A slot reports what the rest of its filtering does once the receiver's id is looked up. -/
theorem reports_slot {receivers : List Identity} {index : Nat} {what : String} {info : Bytes}
    {next : Identity × String → Logged Slot} {added : List LogRecord}
    (rest : ∀ receiver id, receivers[index]? = some receiver → lookup receiver info = .ok id →
      (next (receiver, id)).Reports added) :
    Task.Reports (liftM (receiverAt lookup what receivers index info) >>= next) added := by
  refine (Task.Reports.lift _).bind fun records (receiver, id) found => ?_
  obtain ⟨named, told⟩ := receiverAt_eq_ok_iff.mp found
  exact rest receiver id named told

theorem reports_filterIssueSlot (m : IssueMetadata) (index : Nat) (info : Bytes) :
    (filterIssueSlot lookup log ids m index info).Reports (SlotSource.issueRecords lookup log ids
      ⟨m.receivers[index]?, info, m.outputsMetadata[index]?, some []⟩) := by
  unfold filterIssueSlot
  refine reports_slot fun receiver id named told => ?_
  rw [SlotSource.issueRecords_eq (SlotSource.told?_eq named told)]
  by_cases wanted : id ∈ ids
  · simp only [wanted, ↓reduceIte]
    exact (Task.Reports.lift _).bind fun _ _ _ => .pure _
  · simp only [wanted, ↓reduceIte]
    exact (Task.Reports.debug log _).bind fun _ _ _ => .pure _

theorem reports_filterTransferSlot (m : TransferMetadata) (index : Nat) (info : Bytes) :
    (filterTransferSlot lookup log ids m index info).Reports (SlotSource.transferRecords lookup log ids
      ⟨m.receivers[index]?, info, m.outputsMetadata[index]?, m.outputAuditInfos[index]?⟩) := by
  unfold filterTransferSlot
  refine reports_slot fun receiver id named told => ?_
  rw [SlotSource.transferRecords_eq (SlotSource.told?_eq named told)]
  by_cases wanted : id ∈ ids
  · simp only [wanted, ↓reduceIte]
    exact (Task.Reports.debug log _).bind fun _ _ _ => (Task.Reports.lift _).bind fun _ _ _ =>
      (Task.Reports.lift _).bind fun _ _ _ => .pure _
  · simp only [wanted, ↓reduceIte]
    exact (Task.Reports.debug log _).bind fun _ _ _ => .pure _

/-- Filtering all slots reports of one after the other. -/
theorem reports_slots {f : Nat → Bytes → Logged Slot} {source : Nat → Bytes → SlotSource}
    {added : SlotSource → List LogRecord} (infos : List Bytes)
    (each : ∀ i info, (f i info).Reports (added (source i info))) :
    ((withPositions infos).mapM fun (i, info) => f i info).Reports
      ((infos.mapIdx source).flatMap added) := by
  refine (Task.Reports.mapM (withPositions infos) fun entry => each entry.1 entry.2).congr ?_
  rw [mapIdx_eq_map_withPositions, List.flatMap_map]

theorem reports_filterIssue (m : IssueMetadata) :
    (filterIssue lookup log ids m).Reports (m.records lookup log ids) := by
  have slots := reports_slots (f := filterIssueSlot lookup log ids m) m.receiverAuditInfos
    (reports_filterIssueSlot m)
  exact (slots.bind fun _ _ _ => .pure _).congr (List.append_nil _)

theorem reports_filterTransfer (m : TransferMetadata) :
    (filterTransfer lookup log ids m).Reports (m.records lookup log ids) := by
  have slots := reports_slots (f := filterTransferSlot lookup log ids m) m.receiverAuditInfos
    (reports_filterTransferSlot m)
  refine slots.bind fun records made run => ?_
  have become := (yields_slots (f := filterTransferSlot lookup log ids m) m.receiverAuditInfos
    (yields_filterTransferSlot m) records made).mp run
  have counted : m.disclosed lookup ids = _ := SlotSource.length_filter_isDisclosed become
  rw [counted]
  -- the audit infos of the senders are taken in silence, if at all
  cases told : made.any Slot.kept with
  | true =>
    exact (Task.Reports.lift _).bind fun _ _ _ => (Task.Reports.debug log _).bind fun _ _ _ => .pure _
  | false =>
    exact (Task.Reports.pure _).bind fun _ _ _ => (Task.Reports.debug log _).bind fun _ _ _ => .pure _

/-- All that a filtering reports when it succeeds. -/
theorem reports_filterBy (m : RequestMetadata) :
    (filterBy lookup log ids m).Reports (m.records lookup log ids) := by
  unfold filterBy
  refine (Task.Reports.mapM m.issues fun _ => reports_filterIssue _).bind fun records issues run => ?_
  have asIssues := ((Task.Yields.mapM fun _ => yields_filterIssue) records issues).mp run
  refine (Task.Reports.mapM m.transfers fun _ => reports_filterTransfer _).bind
    fun records transfers run => ?_
  have asTransfers := ((Task.Yields.mapM fun _ => yields_filterTransfer) records transfers).mp run
  rw [← asIssues.length_eq, ← asTransfers.length_eq]
  exact (Task.Reports.debug log _).bind fun _ _ _ => .pure _

end Metadata

/-! ## Metadata of one shape -/

/-- The metadata of two issues differs at most in the audit infos and disclosures that its lists hold. -/
structure IssueMetadata.SameShape (m m' : IssueMetadata) : Prop where
  issuer : m.issuer = m'.issuer
  tokenIds : m.tokenIds = m'.tokenIds
  outputs : m.outputsMetadata.length = m'.outputsMetadata.length
  receivers : m.receivers = m'.receivers
  receiverInfos : m.receiverAuditInfos.length = m'.receiverAuditInfos.length
  extraSigners : m.extraSigners = m'.extraSigners

/-- The metadata of two transfers differs at most in the audit infos and disclosures that its lists
hold. -/
structure TransferMetadata.SameShape (m m' : TransferMetadata) : Prop where
  tokenIds : m.tokenIds = m'.tokenIds
  senders : m.senders = m'.senders
  senderInfos : m.senderAuditInfos.length = m'.senderAuditInfos.length
  outputs : m.outputsMetadata.length = m'.outputsMetadata.length
  outputInfos : m.outputAuditInfos.length = m'.outputAuditInfos.length
  receivers : m.receivers = m'.receivers
  receiverInfos : m.receiverAuditInfos.length = m'.receiverAuditInfos.length
  extraSigners : m.extraSigners = m'.extraSigners

/-- The metadata of two requests differs at most in audit infos and disclosures. -/
structure RequestMetadata.SameShape (m m' : RequestMetadata) : Prop where
  issues : List.Forall₂ IssueMetadata.SameShape m.issues m'.issues
  transfers : List.Forall₂ TransferMetadata.SameShape m.transfers m'.transfers
  application : m.application = m'.application

/-! ## What the records tell -/

/-- Of two slots none or both are kept. -/
def SlotSource.KeptAlike (lookup : EnrollmentLookup) (ids : List String) (source source' : SlotSource) :
    Prop :=
  source.isKept lookup ids = source'.isKept lookup ids

/-- Filtering keeps the same slots of the metadata of two requests. -/
structure RequestMetadata.KeptAlike (lookup : EnrollmentLookup) (ids : List String)
    (m m' : RequestMetadata) : Prop where
  issues : List.Forall₂ (fun issue issue' =>
    List.Forall₂ (SlotSource.KeptAlike lookup ids) issue.slotSources issue'.slotSources)
    m.issues m'.issues
  transfers : List.Forall₂ (fun transfer transfer' =>
    List.Forall₂ (SlotSource.KeptAlike lookup ids) transfer.slotSources transfer'.slotSources)
    m.transfers m'.transfers

/-- The audit infos of two issues tell the same enrollment ids of the slots that are not kept. -/
def IssueMetadata.ToldAlike (lookup : EnrollmentLookup) (ids : List String) (m m' : IssueMetadata) :
    Prop :=
  List.Forall₂ (fun source source' => source.isKept lookup ids = false →
    source.told? lookup = source'.told? lookup) m.slotSources m'.slotSources

/-- The audit infos of two transfers tell the same enrollment ids, and as many disclosures are kept of the
one as of the other. -/
def TransferMetadata.ToldAlike (lookup : EnrollmentLookup) (ids : List String)
    (m m' : TransferMetadata) : Prop :=
  List.Forall₂ (fun source source' => source.told? lookup = source'.told? lookup)
    m.slotSources m'.slotSources ∧ m.disclosed lookup ids = m'.disclosed lookup ids

/-- The metadata of two requests tells the records the same. -/
structure RequestMetadata.ToldAlike (lookup : EnrollmentLookup) (ids : List String)
    (m m' : RequestMetadata) : Prop where
  issues : List.Forall₂ (IssueMetadata.ToldAlike lookup ids) m.issues m'.issues
  transfers : List.Forall₂ (TransferMetadata.ToldAlike lookup ids) m.transfers m'.transfers

/-- Records that name an id between the same words are equal where the ids are. -/
theorem equalWhen_named {lead trail : String} {id id' : String} :
    EqualWhen [LogRecord.mk log.target (lead ++ id ++ trail)]
      [LogRecord.mk log.target (lead ++ id' ++ trail)] (id = id') := by
  refine .singleton ?_
  rw [LogRecord.mk.injEq, String.append_left_inj, String.append_right_inj]
  exact and_iff_right rfl

namespace SlotSource

variable {source source' : SlotSource} {id id' : String}

theorem isKept_eq (told : source.told? lookup = some id) :
    source.isKept lookup ids = decide (id ∈ ids) := by
  rw [isKept, told, Option.any_some]

/-- Slots that are kept alike belong both to receivers with wanted ids, or both to others. -/
theorem KeptAlike.iff (kept : source.KeptAlike lookup ids source')
    (told : source.told? lookup = some id) (told' : source'.told? lookup = some id') :
    id ∈ ids ↔ id' ∈ ids := by
  rwa [KeptAlike, isKept_eq told, isKept_eq told', decide_eq_decide] at kept

/-- The records of two slots of issues are equal if the slots are kept, or if one id is told of both. -/
theorem equalWhen_issueRecords (told : source.told? lookup = some id)
    (told' : source'.told? lookup = some id') (kept : source.KeptAlike lookup ids source') :
    EqualWhen (source.issueRecords lookup log ids) (source'.issueRecords lookup log ids)
      (source.isKept lookup ids = false → source.told? lookup = source'.told? lookup) := by
  have same := kept.iff told told'
  rw [issueRecords_eq told, issueRecords_eq told', isKept_eq told, told, told']
  by_cases wanted : id ∈ ids
  · rw [if_pos wanted, if_pos (same.mp wanted)]
    exact EqualWhen.nil.congr (iff_of_true trivial fun skipped => absurd wanted (by simpa using skipped))
  · rw [if_neg wanted, if_neg (mt same.mpr wanted)]
    have named : id = id' ↔ (decide (id ∈ ids) = false → some id = some id') := by simp [wanted]
    exact equalWhen_named.congr named

/-- The records of two slots of transfers are equal if one id is told of both. -/
theorem equalWhen_transferRecords (told : source.told? lookup = some id)
    (told' : source'.told? lookup = some id') (kept : source.KeptAlike lookup ids source') :
    EqualWhen (source.transferRecords lookup log ids) (source'.transferRecords lookup log ids)
      (source.told? lookup = source'.told? lookup) := by
  have same := kept.iff told told'
  rw [transferRecords_eq told, transferRecords_eq told', told, told', Option.some.injEq]
  by_cases wanted : id ∈ ids
  · rw [if_pos wanted, if_pos (same.mp wanted)]
    exact equalWhen_named
  · rw [if_neg wanted, if_neg (mt same.mpr wanted)]
    exact equalWhen_named

end SlotSource

theorem disclosedMessage_inj {kept kept' all : Nat} :
    disclosedMessage kept all = disclosedMessage kept' all ↔ kept = kept' := by
  unfold disclosedMessage
  rw [String.append_left_inj, String.append_left_inj, String.append_left_inj, String.append_right_inj]
  refine ⟨fun same => ?_, congrArg toString⟩
  rw [Nat.toString_eq_ofList_toDigits, Nat.toString_eq_ofList_toDigits, String.ofList_inj] at same
  rw [← Nat.ofDigitChars_ten_toDigits (n := kept), same, Nat.ofDigitChars_ten_toDigits]

/-! ## Two filterings -/

/-- The records of two issues that are filtered are equal if the same ids are told of what is not kept. -/
theorem IssueMetadata.equalWhen_records {m m' filtered filtered' : IssueMetadata}
    (kept : List.Forall₂ (SlotSource.KeptAlike lookup ids) m.slotSources m'.slotSources)
    (h : m.FilteredTo lookup ids filtered) (h' : m'.FilteredTo lookup ids filtered') :
    EqualWhen (m.records lookup log ids) (m'.records lookup log ids) (m.ToldAlike lookup ids m') := by
  obtain ⟨slots, become, -⟩ := h
  obtain ⟨slots', become', -⟩ := h'
  refine EqualWhen.flatMap (forall₂_and_mem kept (SlotSource.exists_told? become)
    (SlotSource.exists_told? become')) ?_
  rintro source source' ⟨⟨id, told⟩, ⟨id', told'⟩, kept⟩
  exact SlotSource.equalWhen_issueRecords told told' kept

/-- The records of two transfers that are filtered are equal if the same ids are told of all slots and as
many disclosures are kept. -/
theorem TransferMetadata.equalWhen_records {m m' filtered filtered' : TransferMetadata}
    (outputs : m.outputsMetadata.length = m'.outputsMetadata.length)
    (kept : List.Forall₂ (SlotSource.KeptAlike lookup ids) m.slotSources m'.slotSources)
    (h : m.FilteredTo lookup ids filtered) (h' : m'.FilteredTo lookup ids filtered') :
    EqualWhen (m.records lookup log ids) (m'.records lookup log ids) (m.ToldAlike lookup ids m') := by
  obtain ⟨slots, become, -⟩ := h
  obtain ⟨slots', become', -⟩ := h'
  unfold records
  rw [outputs]
  refine EqualWhen.append (EqualWhen.flatMap (forall₂_and_mem kept (SlotSource.exists_told? become)
    (SlotSource.exists_told? become')) ?_) (.singleton ?_)
  · rintro source source' ⟨⟨id, told⟩, ⟨id', told'⟩, kept⟩
    exact SlotSource.equalWhen_transferRecords told told' kept
  · rw [LogRecord.mk.injEq, and_iff_right rfl, disclosedMessage_inj]

/-- The records of two requests that are filtered are equal if they are told the same. -/
theorem RequestMetadata.equalWhen_records {m m' filtered filtered' : RequestMetadata}
    (shape : m.SameShape m') (kept : m.KeptAlike lookup ids m')
    (h : m.FilteredTo lookup ids filtered) (h' : m'.FilteredTo lookup ids filtered') :
    EqualWhen (m.records lookup log ids) (m'.records lookup log ids) (m.ToldAlike lookup ids m') := by
  have issues := forall₂_and_mem kept.issues (exists_forall₂_iff.mp ⟨_, h.issues⟩)
    (exists_forall₂_iff.mp ⟨_, h'.issues⟩)
  have transfers := forall₂_and_mem (forall₂_and shape.transfers kept.transfers)
    (exists_forall₂_iff.mp ⟨_, h.transfers⟩) (exists_forall₂_iff.mp ⟨_, h'.transfers⟩)
  have ofIssues : EqualWhen (m.issues.flatMap (IssueMetadata.records lookup log ids))
      (m'.issues.flatMap (IssueMetadata.records lookup log ids))
      (List.Forall₂ (IssueMetadata.ToldAlike lookup ids) m.issues m'.issues) :=
    .flatMap issues fun _ _ ⟨⟨_, made⟩, ⟨_, made'⟩, kept⟩ =>
      IssueMetadata.equalWhen_records kept made made'
  have ofTransfers : EqualWhen (m.transfers.flatMap (TransferMetadata.records lookup log ids))
      (m'.transfers.flatMap (TransferMetadata.records lookup log ids))
      (List.Forall₂ (TransferMetadata.ToldAlike lookup ids) m.transfers m'.transfers) :=
    .flatMap transfers fun _ _ ⟨⟨_, made⟩, ⟨_, made'⟩, shape, kept⟩ =>
      TransferMetadata.equalWhen_records shape.outputs kept made made'
  unfold records
  rw [shape.issues.length_eq, shape.transfers.length_eq]
  refine (ofIssues.append (ofTransfers.append (.singleton (iff_of_true rfl trivial)))).congr ?_
  exact ⟨fun ⟨issues, transfers, _⟩ => ⟨issues, transfers⟩, fun told =>
    ⟨told.issues, told.transfers, trivial⟩⟩

/-- The auditor reports that it checks a request and that it has succeeded, whatever it is told. -/
theorem Auditor.reports_check {P : Type} [PointGroup P] (auditor : Auditor P) (request : TokenRequest)
    (metadata : RequestMetadata) (inputs : List (List (Token P))) (txId : String) :
    (auditor.check request metadata inputs txId).Reports
      ([⟨auditor.logger.target, s!"checking [{request.issues.length}] issues and " ++
        s!"[{request.transfers.length}] transfers of [{txId}]"⟩] ++
        ([] ++ [⟨auditor.logger.target, s!"check of [{txId}] succeeded"⟩])) :=
  (Task.Reports.debug _ _).bind fun _ _ _ => (Task.Reports.lift _).bind fun _ _ _ => .debug _ _

/-- The records of the auditor are those of the request alone, whatever metadata it accepts. The records
of a filtering that succeeds tell of metadata of one shape, in which the same slots are kept, just the
enrollment ids of the slots of issues that are not kept and of all slots of transfers, and how many
disclosures are kept of each transfer. -/
theorem Metadata.records_tell_ids {P : Type} [PointGroup P] :
    (∀ (auditor : Auditor P) (request : TokenRequest) (txId : String)
        (metadata metadata' : RequestMetadata) (inputs inputs' : List (List (Token P)))
        (records : List LogRecord),
      ((auditor.check request metadata inputs txId).perform records).1 = .ok () →
      ((auditor.check request metadata' inputs' txId).perform records).1 = .ok () →
      ((auditor.check request metadata inputs txId).perform records).2 =
        ((auditor.check request metadata' inputs' txId).perform records).2) ∧
    ∀ (lookup : EnrollmentLookup) (log : Logger) (ids : List String)
        (m m' filtered filtered' : RequestMetadata) (records : List LogRecord),
      m.SameShape m' → m.KeptAlike lookup ids m' →
      ((filterBy lookup log ids m).perform records).1 = .ok filtered →
      ((filterBy lookup log ids m').perform records).1 = .ok filtered' →
      (((filterBy lookup log ids m).perform records).2 =
        ((filterBy lookup log ids m').perform records).2 ↔ m.ToldAlike lookup ids m') := by
  constructor
  · intro auditor request txId metadata metadata' inputs inputs' records success success'
    exact ((auditor.reports_check request metadata inputs txId).perform_eq_iff
      (auditor.reports_check request metadata' inputs' txId) success success').mpr rfl
  · intro lookup log ids m m' filtered filtered' records shape kept success success'
    rw [(reports_filterBy m).perform_eq_iff (reports_filterBy m') success success']
    exact (RequestMetadata.equalWhen_records shape kept (filterBy_eq_ok_iff.mp success)
      (filterBy_eq_ok_iff.mp success')).eq_iff

/-! ## An issue to a pseudonym -/

namespace Plain

/-- Somebody under a pseudonym. -/
def pseudonymous : Identity := (Credential.idemix Plain "carol" default [] 1).identity

set_option maxRecDepth 2048 in
/-- The enrollment id is found in whatever audit info comes with the pseudonym. -/
theorem enrollmentId_pseudonymous {info : AuditInfo}
    (id : (Bytes.ofText info.enrollmentId).length < Wire.lengthBound)
    (handle : info.revocationHandle.length < Wire.lengthBound) :
    pseudonymous.enrollmentId (AuditInfo.codec.encode info) = .ok info.enrollmentId := by
  have told : AuditInfo.ofBytes (AuditInfo.codec.encode info) = .ok info :=
    AuditInfo.ofBytes_encode id handle
  have given := AuditInfo.ne_nil_of_ofBytes told
  have read : TypedIdentity.parse pseudonymous = .ok _ := TypedIdentity.parse_wrap .idemix (by decide)
  exact Identity.enrollmentId_eq_ok_iff.mpr (.party given read rfl nofun told)

/-- The metadata of an issue of one token to the pseudonym, with some audit info. -/
def toPseudonym (info : Bytes) : RequestMetadata :=
  ⟨[⟨sender.identity, [], [[1]], [pseudonymous], [info], []⟩], [], .empty⟩

theorem toPseudonym_sameShape (info info' : Bytes) : (toPseudonym info).SameShape (toPseudonym info') :=
  ⟨.cons ⟨rfl, rfl, rfl, rfl, rfl, rfl⟩ .nil, .nil, rfl⟩

section

variable {info info' : Bytes} {id id' : String}

/-- Filtered for others nothing is left of it. -/
theorem filterBy_toPseudonym (told : pseudonymous.enrollmentId info = .ok id) (other : id ∉ ["bob"]) :
    ((Metadata.filterBy Identity.enrollmentId (Metadata.logger .default) ["bob"]
      (toPseudonym info)).perform []).1 =
        .ok ⟨[⟨sender.identity, [], [[]], [pseudonymous], [[]], []⟩], [], .empty⟩ :=
  Metadata.filterBy_eq_ok_iff.mpr (IssueMetadata.FilteredTo.alone
    ⟨_, .cons (.blank rfl told other) .nil, rfl⟩)

theorem toPseudonym_keptAlike (told : pseudonymous.enrollmentId info = .ok id) (other : id ∉ ["bob"])
    (told' : pseudonymous.enrollmentId info' = .ok id') (other' : id' ∉ ["bob"]) :
    (toPseudonym info).KeptAlike Identity.enrollmentId ["bob"] (toPseudonym info') := by
  refine ⟨.cons (.cons ?_ .nil) .nil, .nil⟩
  rw [SlotSource.KeptAlike, SlotSource.isKept_eq (SlotSource.told?_eq rfl told),
    SlotSource.isKept_eq (SlotSource.told?_eq rfl told'), decide_eq_false other,
    decide_eq_false other']

/-- What is told of the issue is the enrollment id. -/
theorem toPseudonym_toldAlike_iff (told : pseudonymous.enrollmentId info = .ok id)
    (other : id ∉ ["bob"]) (told' : pseudonymous.enrollmentId info' = .ok id') :
    (toPseudonym info).ToldAlike Identity.enrollmentId ["bob"] (toPseudonym info') ↔ id = id' := by
  constructor
  · rintro ⟨_ | ⟨_ | ⟨alike, -⟩, -⟩, -⟩
    have same := alike ((SlotSource.isKept_eq (SlotSource.told?_eq rfl told)).trans
      (decide_eq_false other))
    exact Option.some.inj ((SlotSource.told?_eq rfl told).symm.trans
      (same.trans (SlotSource.told?_eq rfl told')))
  · rintro rfl
    exact ⟨.cons (.cons (fun _ => (SlotSource.told?_eq rfl told).trans
      (SlotSource.told?_eq rfl told').symm) .nil) .nil, .nil⟩

end

/-- What carol tells the auditor about the pseudonym, with some revocation handle. -/
def carolInfo (handle : Bytes) : Bytes := AuditInfo.codec.encode ⟨"carol", handle, some 1⟩

theorem enrollmentId_carol {handle : Bytes} (short : handle.length < Wire.lengthBound) :
    pseudonymous.enrollmentId (carolInfo handle) = .ok "carol" := by
  have id : (Bytes.ofText "carol").length < Wire.lengthBound := by decide
  exact enrollmentId_pseudonymous id short

/-- The records of two audits of the reclaim are the same, and so are those of two filterings that are
told the same id behind the pseudonym. -/
theorem records_tell_ids_reclaim_carol :
    (((Auditor.create parameters none .default).check reclaim reclaimMetadata [[locked]]
        "reclaim").perform []).2 =
      (((Auditor.create parameters none .default).check reclaim
        (reclaimMetadata.redirected fun _ => [(sender.identity, recipient.auditInfo)]) [[locked]]
        "reclaim").perform []).2 ∧
    ((Metadata.filterBy Identity.enrollmentId (Metadata.logger .default) ["bob"]
        (toPseudonym (carolInfo []))).perform []).2 =
      ((Metadata.filterBy Identity.enrollmentId (Metadata.logger .default) ["bob"]
        (toPseudonym (carolInfo [4]))).perform []).2 := by
  obtain ⟨audits, filterings⟩ := Metadata.records_tell_ids (P := Plain)
  constructor
  · refine audits _ _ _ _ _ _ _ _ ?_ ?_
    · exact Auditor.check_eq_ok_iff_inspect.mpr (Auditor.inspect_eq_ok_iff.mpr reclaim_disclosed)
    · exact Auditor.check_eq_ok_iff_inspect.mpr
        (Auditor.inspect_eq_ok_iff.mpr (reclaim_disclosed.redirected _))
  · have told : pseudonymous.enrollmentId (carolInfo []) = .ok "carol" :=
      enrollmentId_carol (by decide)
    have told' : pseudonymous.enrollmentId (carolInfo [4]) = .ok "carol" :=
      enrollmentId_carol (by decide)
    have other : "carol" ∉ ["bob"] := by decide
    exact (filterings _ _ _ _ _ _ _ _ (toPseudonym_sameShape _ _)
      (toPseudonym_keptAlike told other told' other) (filterBy_toPseudonym told other)
      (filterBy_toPseudonym told' other)).mpr ((toPseudonym_toldAlike_iff told other told').mpr rfl)

/-- The records of a filtering name the id behind the pseudonym: they are others when the audit info is
empty, although nothing else differs and nothing is kept. -/
theorem pseudonym_reported :
    (toPseudonym (carolInfo [])).SameShape (toPseudonym []) ∧
    (toPseudonym (carolInfo [])).KeptAlike Identity.enrollmentId ["bob"] (toPseudonym []) ∧
    (∃ filtered, ((Metadata.filterBy Identity.enrollmentId (Metadata.logger .default) ["bob"]
        (toPseudonym (carolInfo []))).perform []).1 = .ok filtered ∧
      ((Metadata.filterBy Identity.enrollmentId (Metadata.logger .default) ["bob"]
        (toPseudonym [])).perform []).1 = .ok filtered) ∧
    ((Metadata.filterBy Identity.enrollmentId (Metadata.logger .default) ["bob"]
        (toPseudonym (carolInfo []))).perform []).2 ≠
      ((Metadata.filterBy Identity.enrollmentId (Metadata.logger .default) ["bob"]
        (toPseudonym [])).perform []).2 := by
  have told : pseudonymous.enrollmentId (carolInfo []) = .ok "carol" := enrollmentId_carol (by decide)
  have told' := Identity.enrollmentId_nil pseudonymous
  have other : "carol" ∉ ["bob"] := by decide
  have other' : "" ∉ ["bob"] := by decide
  have shape := toPseudonym_sameShape (carolInfo []) []
  have kept := toPseudonym_keptAlike told other told' other'
  have success := filterBy_toPseudonym told other
  have success' := filterBy_toPseudonym told' other'
  refine ⟨shape, kept, ⟨_, success, success'⟩, fun same => ?_⟩
  have records := ((Metadata.reports_filterBy _).perform_eq_iff (Metadata.reports_filterBy _) success
    success').mp same
  have alike := (RequestMetadata.equalWhen_records shape kept (Metadata.filterBy_eq_ok_iff.mp success)
    (Metadata.filterBy_eq_ok_iff.mp success')).eq_iff.mp records
  exact absurd ((toPseudonym_toldAlike_iff told other told').mp alike) (by decide)

end Plain

end ConfidentialToken
