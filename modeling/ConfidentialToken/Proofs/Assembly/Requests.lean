import ConfidentialToken.Network
import ConfidentialToken.Proofs.Assembly.Actions
import ConfidentialToken.Proofs.Audit.Coverage
import ConfidentialToken.Proofs.Message
import ConfidentialToken.Proofs.Validation.TimeLock

/-!
# Honest requests are accepted

A request is honest when its actions were assembled from true audit infos and from tokens that lie on the
ledger, and when those who have to sign it have signed it in order, with their keys. All that happens to
such a request on its way goes through: it is signed, it is audited and endorsed, it is accepted, and it
is applied. How the actions of both kinds were mixed does not matter.

What is assumed of the cryptography is named where it is used: the range prover is relied on in the calls
of an order, the type commitments that are drawn are not neutral, and signatures of a key verify under it.
A request that is over the size limit has no message to sign, so it is none of these.
-/

namespace ConfidentialToken

/-! ## Keys -/

/-- Signatures of a key verify under it. -/
class Suite.LawfulSignatures (P : Type) [Suite P] : Prop where
  verify_sign (seed : Block 32) (message : Bytes) :
    Suite.verifySignature P (Suite.publicKey P seed) message (Suite.sign P seed message) = .ok ()

/-- A signer has the key that signatures of its identity verify under. -/
def Signer.HoldsKey (P : Type) [Suite P] (signer : Signer) : Prop :=
  ∃ seed, signer.sign = Suite.sign P seed ∧
    signer.identity.verifyingKey P = .ok (Suite.publicKey P seed)

section

variable {P : Type} [Suite P]

theorem Signer.HoldsKey.verify [Suite.LawfulSignatures P] {signer : Signer}
    (holds : signer.HoldsKey P) (message : Bytes) :
    signer.identity.verify P message (signer.sign message) = .ok () := by
  obtain ⟨seed, signs, key⟩ := holds
  unfold Identity.verify
  rw [key, signs]
  exact Outcome.mapError_eq_ok_iff.mpr (Suite.LawfulSignatures.verify_sign seed message)

end

/-- The credential of a seed that shows its enrollment id signs with the key of its identity. -/
theorem Credential.holdsKey_x509 {P : Type} [Suite P] {enrollmentId : String} {seed : Block 32}
    {handle : Bytes} (id : (Bytes.ofText enrollmentId).length < Wire.lengthBound)
    (fits : Identity.Fits ⟨X509Identity.codec.encode ⟨enrollmentId, Suite.publicKey P seed⟩⟩) :
    ((x509 P enrollmentId seed handle).signer P).HoldsKey P :=
  ⟨seed, rfl, Identity.verifyingKey_x509 P id fits⟩

/-! ## Orders -/

/-- What an issuer is told to make, and what it draws. -/
structure IssueOrder where
  issuer : Identity
  tokenType : String
  recipients : List Recipient
  draws : Draws

/-- What a sender is told to make of which tokens, and what it draws. -/
structure TransferOrder (P : Type) where
  inputs : List (OwnedToken P)
  recipients : List Recipient
  draws : Draws

section

variable {P : Type}

/-- The openings of the outputs that are made. -/
def IssueOrder.openings (order : IssueOrder) : List Opening :=
  Recipient.openings order.tokenType order.recipients order.draws

/-- The type of the tokens, as the first input tells it. -/
def TransferOrder.tokenType (order : TransferOrder P) : String :=
  (order.inputs.head?.map (·.opening.tokenType)).getD ""

/-- The openings of the outputs that are made. -/
def TransferOrder.openings (order : TransferOrder P) : List Opening :=
  Recipient.openings order.tokenType order.recipients order.draws

variable [Suite P]

/-- The issue that is made to an order, with its metadata. -/
def IssueOrder.assemble (pp : PublicParameters P) (order : IssueOrder) :
    Outcome (IssueAction P × IssueMetadata) :=
  IssueAction.assemble pp order.issuer order.tokenType order.recipients order.draws

/-- The transfer that is made to an order, with its metadata. -/
def TransferOrder.assemble (pp : PublicParameters P) (order : TransferOrder P) :
    Outcome (TransferAction P × TransferMetadata) :=
  TransferAction.assemble pp order.inputs order.recipients order.draws

/-- What is made to an order has the type of the order. -/
theorem TransferOrder.assembled {pp : PublicParameters P} {order : TransferOrder P}
    {action : TransferAction P} {metadata : TransferMetadata}
    (made : order.assemble pp = .ok (action, metadata)) :
    TransferAction.Assembled pp order.inputs order.recipients order.draws order.tokenType action
      metadata := by
  obtain ⟨tokenType, assembled⟩ := TransferAction.assemble_eq_ok_iff.mp made
  obtain rfl : order.tokenType = tokenType := by
    obtain ⟨first, rest, listed⟩ := List.exists_cons_of_ne_nil assembled.some
    have typed := (assembled.opened first (listed ▸ List.mem_cons_self)).1
    rw [TransferOrder.tokenType, listed]
    exact typed
  exact assembled

/-- An order to issue is honest when it comes from an authorized issuer and the audit infos describe the
owners. The last two fields are about the cryptography. -/
structure IssueOrder.Honest (pp : PublicParameters P) (order : IssueOrder) : Prop where
  named : order.issuer.isNone = false
  authorized : pp.issuers = [] ∨ order.issuer ∈ pp.issuers
  described : ∀ recipient ∈ order.recipients, recipient.owner.DescribedBy P recipient.auditInfo
  reliable : IssueProof.RangesReliable pp order.openings
    (order.openings.map (·.commitment pp.generators)) (order.draws.skip order.recipients.length)
  proper : (pp.generators.commitType order.tokenType
    (order.draws order.recipients.length)).isIdentity = false

/-- An order to transfer is honest on a ledger when its inputs, which are not too many, can be spent
there, and each recipient is nobody, or may hold a token and is described by its audit info. The last two
fields are about the cryptography. -/
structure TransferOrder.Honest (pp : PublicParameters P) (ledger : Ledger) (order : TransferOrder P) :
    Prop where
  few : order.inputs.length ≤ maxOutputs
  spendable : ∀ owned ∈ order.inputs, owned.Spendable ledger
  recipients : ∀ recipient ∈ order.recipients, recipient.owner.isNone = true ∨
    recipient.owner.MayHold ledger.time ∧ recipient.owner.DescribedBy P recipient.auditInfo
  reliable : TransferProof.RangesReliable pp (order.inputs.map (·.opening))
    (order.inputs.map (·.token.data)) order.openings
    (order.openings.map (·.commitment pp.generators)) (order.draws.skip order.recipients.length)
  proper : (pp.generators.commitType order.tokenType
    (order.draws order.recipients.length)).isIdentity = false

/-- An action with its metadata is what was made to an honest order. -/
inductive NamedAction.Honest (pp : PublicParameters P) (ledger : Ledger) : NamedAction P → Prop where
  | issue {order : IssueOrder} {action : IssueAction P} {metadata : IssueMetadata} :
    order.Honest pp → order.assemble pp = .ok (action, metadata) → Honest pp ledger (.issue action metadata)
  | transfer {order : TransferOrder P} {action : TransferAction P} {metadata : TransferMetadata} :
    order.Honest pp ledger → order.assemble pp = .ok (action, metadata) →
    Honest pp ledger (.transfer action metadata)

end

/-! ## Actions of honest orders -/

section

variable {P : Type} [Suite P] [PointGroup.Linear P] [PointGroup.LawfulEncoding P]
  {pp : PublicParameters P} {ledger : Ledger}

/-- Nobody may hold what is taken out of circulation. -/
theorem Identity.mayHold_of_isNone {owner : Identity} (nobody : owner.isNone = true) (now : UInt64) :
    owner.MayHold now := by
  obtain ⟨_ | _⟩ := owner
  · intro isScript
    cases isScript
  · cases nobody

/-- An issue that was made to an honest order breaks no rule, and its metadata tells all of it. -/
theorem IssueOrder.Honest.sound {order : IssueOrder} (honest : order.Honest pp) (made : pp.Made)
    {action : IssueAction P} {metadata : IssueMetadata}
    (assembled : order.assemble pp = .ok (action, metadata)) :
    action.Valid pp ∧ action.DisclosedBy pp.generators metadata := by
  have assembled := IssueAction.assemble_eq_ok_iff.mp assembled
  have authorized : Rule.authorize pp order.issuer = .ok () := by
    simpa [Rule.authorize, PublicParameters.isIssuer] using honest.authorized
  exact ⟨assembled.valid made honest.named authorized honest.reliable honest.proper,
    assembled.disclosedBy honest.described⟩

/-- What a transfer that was made to an honest order is on a ledger: it breaks no rule, its metadata
tells all of it, and plain owners of its inputs sign for it, and nobody else. -/
structure TransferAction.Sound (pp : PublicParameters P) (ledger : Ledger) (action : TransferAction P)
    (metadata : TransferMetadata) : Prop where
  valid : action.Valid pp ledger
  disclosed : action.DisclosedBy pp.generators metadata (action.inputs.map ActionInput.token)
  plain : ∀ input ∈ action.inputs, Script.isScript input.token.owner = false
  extraSigners : action.extraSigners = []

/-- A transfer that was made to an honest order is sound. -/
theorem TransferOrder.Honest.sound {order : TransferOrder P} (honest : order.Honest pp ledger)
    (made : pp.Made) {action : TransferAction P} {metadata : TransferMetadata}
    (assembled : order.assemble pp = .ok (action, metadata))
    (distinct : action.inputIds.Nodup) : action.Sound pp ledger metadata := by
  have assembled := TransferOrder.assembled assembled
  have tokens : action.inputs.map ActionInput.token = order.inputs.map (·.token) := by
    rw [assembled.inputs_eq, List.map_map]
    rfl
  refine ⟨?_, ?_, ?_, assembled.extraSigners_eq⟩
  · refine assembled.valid made honest.few (assembled.inputIds_eq ▸ distinct) honest.spendable ?_
      honest.reliable honest.proper
    intro recipient mem
    rcases honest.recipients recipient mem with nobody | ⟨held, -⟩
    · exact Identity.mayHold_of_isNone nobody ledger.time
    · exact held
  · rw [tokens]
    refine assembled.disclosedBy (fun owned mem => (honest.spendable owned mem).described) ?_
    intro recipient mem somebody
    rcases honest.recipients recipient mem with nobody | ⟨-, described⟩
    · exact absurd (nobody.symm.trans somebody) Bool.false_ne_true.symm
    · exact described
  · exact assembled.forall_input fun owned mem => (honest.spendable owned mem).plain

end

/-! ## Requests of several actions -/

section

variable {P : Type}

/-- The issues among actions, with their metadata. -/
def issuesOf (actions : List (NamedAction P)) : List (IssueAction P × IssueMetadata) :=
  actions.filterMap fun
    | .issue action metadata => some (action, metadata)
    | .transfer _ _ => none

/-- The transfers among actions, with their metadata. -/
def transfersOf (actions : List (NamedAction P)) : List (TransferAction P × TransferMetadata) :=
  actions.filterMap fun
    | .issue _ _ => none
    | .transfer action metadata => some (action, metadata)

theorem mem_issuesOf {actions : List (NamedAction P)} {action : IssueAction P}
    {metadata : IssueMetadata} :
    (action, metadata) ∈ issuesOf actions ↔ .issue action metadata ∈ actions := by
  simp only [issuesOf, List.mem_filterMap]
  constructor
  · rintro ⟨_ | _, mem, ⟨⟩⟩
    exact mem
  · exact fun mem => ⟨_, mem, rfl⟩

theorem mem_transfersOf {actions : List (NamedAction P)} {action : TransferAction P}
    {metadata : TransferMetadata} :
    (action, metadata) ∈ transfersOf actions ↔ .transfer action metadata ∈ actions := by
  simp only [transfersOf, List.mem_filterMap]
  constructor
  · rintro ⟨_ | _, mem, ⟨⟩⟩
    exact mem
  · exact fun mem => ⟨_, mem, rfl⟩

/-- The actions of both kinds, as a validator reads them. -/
def ValidatedActions.ofNamed (actions : List (NamedAction P)) : ValidatedActions P :=
  ⟨(issuesOf actions).map Prod.fst, (transfersOf actions).map Prod.fst⟩

/-- Who signs for actions: the issuers in order, then for each transfer the owners of its inputs. -/
def signersOf (actions : List (NamedAction P)) : List Identity :=
  (issuesOf actions).map (·.1.issuer) ++
    (transfersOf actions).flatMap fun transfer => transfer.1.inputs.map (·.token.owner)

variable [PointGroup P]

/-- The bytes of an action. -/
def NamedAction.toBytes : NamedAction P → Bytes
  | .issue action _ => action.toBytes
  | .transfer action _ => action.toBytes

theorem mem_map_issuesOf {actions : List (NamedAction P)} {action : IssueAction P}
    {metadata : IssueMetadata} (mem : .issue action metadata ∈ actions) :
    action.toBytes ∈ (issuesOf actions).map (·.1.toBytes) :=
  List.mem_map_of_mem (f := (·.1.toBytes)) (mem_issuesOf.mpr mem)

theorem mem_map_transfersOf {actions : List (NamedAction P)} {action : TransferAction P}
    {metadata : TransferMetadata} (mem : .transfer action metadata ∈ actions) :
    action.toBytes ∈ (transfersOf actions).map (·.1.toBytes) :=
  List.mem_map_of_mem (f := (·.1.toBytes)) (mem_transfersOf.mpr mem)

/-- The submission that holds actions, kind by kind, without signatures. -/
def Submission.holding (application : SortedMap String Bytes) (actions : List (NamedAction P)) :
    Submission P where
  request := ⟨(issuesOf actions).map (·.1.toBytes), (transfersOf actions).map (·.1.toBytes), [], []⟩
  metadata := ⟨(issuesOf actions).map Prod.snd, (transfersOf actions).map Prod.snd, application⟩
  inputs := (transfersOf actions).map (·.1.inputs.map ActionInput.token)

/-- An issue that is not over the size limit can be added. -/
theorem TokenRequest.addIssue_eq_ok {action : IssueAction P}
    (short : action.toBytes.length ≤ Wire.sizeLimit) (request : TokenRequest) :
    request.addIssue action = .ok { request with issues := request.issues ++ [action.toBytes] } :=
  Outcome.bind_of_eq_ok (Wire.Codec.write_eq_ok_iff.mpr ⟨rfl, short⟩)

/-- So can a transfer. -/
theorem TokenRequest.addTransfer_eq_ok {action : TransferAction P}
    (short : action.toBytes.length ≤ Wire.sizeLimit) (request : TokenRequest) :
    request.addTransfer action =
      .ok { request with transfers := request.transfers ++ [action.toBytes] } :=
  Outcome.bind_of_eq_ok (Wire.Codec.write_eq_ok_iff.mpr ⟨rfl, short⟩)

/-- Adding actions one by one puts them behind those of their kind. -/
theorem Submission.foldlM_add {actions : List (NamedAction P)}
    (short : ∀ action ∈ actions, action.toBytes.length ≤ Wire.sizeLimit) (submission : Submission P) :
    actions.foldlM add submission = .ok
      { request := { submission.request with
          issues := submission.request.issues ++ (issuesOf actions).map (·.1.toBytes)
          transfers := submission.request.transfers ++ (transfersOf actions).map (·.1.toBytes) }
        metadata := { submission.metadata with
          issues := submission.metadata.issues ++ (issuesOf actions).map Prod.snd
          transfers := submission.metadata.transfers ++ (transfersOf actions).map Prod.snd }
        inputs := submission.inputs ++
          (transfersOf actions).map (·.1.inputs.map ActionInput.token) } := by
  induction actions generalizing submission with
  | nil => simp [issuesOf, transfersOf, pure, Except.pure]
  | cons action actions ih =>
    obtain ⟨first, rest⟩ := List.forall_mem_cons.mp short
    rw [List.foldlM_cons]
    cases action with
    | issue action metadata =>
      have added : submission.add (.issue action metadata) = .ok _ :=
        Outcome.bind_of_eq_ok (TokenRequest.addIssue_eq_ok first submission.request)
      rw [Outcome.bind_of_eq_ok added, ih rest]
      simp [issuesOf, transfersOf]
    | transfer action metadata =>
      have added : submission.add (.transfer action metadata) = .ok _ :=
        Outcome.bind_of_eq_ok (TokenRequest.addTransfer_eq_ok first submission.request)
      rw [Outcome.bind_of_eq_ok added, ih rest]
      simp [issuesOf, transfersOf]

/-- Actions that all fit into one message can be added. -/
theorem Submission.ofActions_eq_ok {application : SortedMap String Bytes}
    {actions : List (NamedAction P)} {anchor : String} {message : Bytes}
    (written : (holding application actions).request.messageToSign anchor = .ok message) :
    ofActions application actions = .ok (holding application actions) := by
  obtain ⟨issues, transfers⟩ := TokenRequest.length_le_of_mem written
  refine foldlM_add (fun action mem => ?_) _
  cases action with
  | issue action metadata => exact issues _ (mem_map_issuesOf mem)
  | transfer action metadata => exact transfers _ (mem_map_transfersOf mem)

end

/-! ## Signing and endorsing -/

section

variable {P : Type} [PointGroup P] {request : TokenRequest} {anchor : String} {message : Bytes}

/-- Signers sign a request one after the other. -/
def TokenRequest.signBy (request : TokenRequest) (anchor : String) (signers : List Signer) :
    Outcome TokenRequest :=
  signers.foldlM (fun request signer => request.sign signer anchor) request

/-- Auditors endorse a request one after the other, and report below a logger. -/
def TokenRequest.endorseBy (request : TokenRequest) (pp : PublicParameters P) (logger : Logger)
    (anchor : String) (auditors : List Signer) : Logged TokenRequest :=
  auditors.foldlM (fun request auditor => do
    let signature ← (Auditor.create pp (some auditor) logger).endorse (some request) anchor
    return request.addAuditorSignature auditor.identity signature) request

/-- The request with signatures of a message. -/
def TokenRequest.withSignatures (request : TokenRequest) (message : Bytes) (signers : List Signer) :
    TokenRequest :=
  { request with signatures := request.signatures ++ signers.map (·.sign message) }

/-- The request with endorsements of a message. -/
def TokenRequest.withEndorsements (request : TokenRequest) (message : Bytes)
    (auditors : List Signer) : TokenRequest :=
  { request with auditorSignatures :=
      request.auditorSignatures ++ auditors.map fun auditor => ⟨auditor.identity, auditor.sign message⟩ }

/-- Signatures change nothing about the message. -/
theorem TokenRequest.written_withSignatures (written : request.messageToSign anchor = .ok message)
    (signed : Bytes) (signers : List Signer) :
    (request.withSignatures signed signers).messageToSign anchor = .ok message :=
  (messageToSign_congr anchor rfl rfl).trans written

/-- Neither do endorsements. -/
theorem TokenRequest.written_withEndorsements (written : request.messageToSign anchor = .ok message)
    (signed : Bytes) (auditors : List Signer) :
    (request.withEndorsements signed auditors).messageToSign anchor = .ok message :=
  (messageToSign_congr anchor rfl rfl).trans written

/-- A request that has a message can be signed by any number of signers, who all sign this message. -/
theorem TokenRequest.signBy_eq_ok (written : request.messageToSign anchor = .ok message)
    (signers : List Signer) :
    request.signBy anchor signers = .ok (request.withSignatures message signers) := by
  induction signers generalizing request with
  | nil =>
    show Except.ok request = .ok { request with signatures := request.signatures ++ [] }
    rw [List.append_nil]
  | cons signer signers ih =>
    have signed : request.sign signer anchor = .ok (request.withSignatures message [signer]) :=
      sign_eq_ok_iff.mpr ⟨message, written, rfl⟩
    have rest := ih (written_withSignatures written message [signer])
    unfold signBy at rest ⊢
    rw [List.foldlM_cons, Outcome.bind_of_eq_ok signed, rest]
    simp only [withSignatures, List.map_cons, List.map_nil, List.append_assoc, List.singleton_append]

/-- An auditor with a signer endorses a request that has a message by signing the message. -/
theorem Auditor.exists_perform_endorse (pp : PublicParameters P) (signer : Signer) (logger : Logger)
    (written : request.messageToSign anchor = .ok message) (log : List LogRecord) :
    ∃ after, ((create pp (some signer) logger).endorse (some request) anchor).perform log =
      (.ok (signer.sign message), after) := by
  unfold endorse
  refine Task.exists_perform_bind
    (Task.perform_lift.mpr ⟨Outcome.inContext_eq_ok_iff.mpr written, rfl⟩) ?_
  exact Task.exists_perform_bind (a := ()) (Task.perform_debug.mpr rfl)
    ⟨_, Task.perform_pure.mpr ⟨rfl, rfl⟩⟩

/-- A request that has a message is endorsed by any number of auditors, who all sign this message. -/
theorem TokenRequest.exists_perform_endorseBy (pp : PublicParameters P) (logger : Logger)
    (written : request.messageToSign anchor = .ok message) (auditors : List Signer)
    (log : List LogRecord) :
    ∃ after, (request.endorseBy pp logger anchor auditors).perform log =
      (.ok (request.withEndorsements message auditors), after) := by
  induction auditors generalizing request log with
  | nil =>
    refine ⟨log, Task.perform_pure.mpr ⟨?_, rfl⟩⟩
    simp only [withEndorsements, List.map_nil, List.append_nil]
  | cons auditor auditors ih =>
    obtain ⟨between, endorsed⟩ := Auditor.exists_perform_endorse pp auditor logger written log
    have first : (do
        let signature ← (Auditor.create pp (some auditor) logger).endorse (some request) anchor
        return request.addAuditorSignature auditor.identity signature : Logged _).perform log =
          (.ok (request.withEndorsements message [auditor]), between) :=
      Task.perform_bind.mpr ⟨_, between, endorsed, Task.perform_pure.mpr ⟨rfl, rfl⟩⟩
    obtain ⟨after, rest⟩ := ih (written_withEndorsements written message [auditor]) between
    refine ⟨after, ?_⟩
    unfold endorseBy at rest ⊢
    rw [List.foldlM_cons]
    refine Task.perform_bind.mpr ⟨_, between, first, ?_⟩
    rw [rest]
    simp only [withEndorsements, List.map_cons, List.map_nil, List.append_assoc,
      List.singleton_append]

end

/-! ## Requests that hold actions -/

section

variable {P : Type} [PointGroup P] {actions : List (NamedAction P)} {request : TokenRequest}
  {anchor : String} {message : Bytes}

/-- A request holds actions, whoever has signed it. -/
structure TokenRequest.Holds (request : TokenRequest) (actions : List (NamedAction P)) : Prop where
  issues : request.issues = (issuesOf actions).map (·.1.toBytes)
  transfers : request.transfers = (transfersOf actions).map (·.1.toBytes)

namespace TokenRequest.Holds

variable (holds : request.Holds actions)
include holds

theorem withSignatures (message : Bytes) (signers : List Signer) :
    (request.withSignatures message signers).Holds actions :=
  ⟨holds.issues, holds.transfers⟩

theorem withEndorsements (message : Bytes) (auditors : List Signer) :
    (request.withEndorsements message auditors).Holds actions :=
  ⟨holds.issues, holds.transfers⟩

variable [PointGroup.LawfulEncoding P]

/-- The issues of a request that can be signed are read back. -/
theorem read_issue (written : request.messageToSign anchor = .ok message) :
    ∀ issue ∈ issuesOf actions, IssueAction.ofBytes issue.1.toBytes = .ok issue.1 := by
  intro issue mem
  have short : issue.1.toBytes.length ≤ Wire.sizeLimit :=
    (length_le_of_mem written).1 _ (holds.issues ▸ List.mem_map_of_mem mem)
  exact Outcome.inContext_eq_ok_iff.mpr
    (IssueAction.lossless.roundTrips (Wire.Codec.lt_lengthBound short)).read_encode

/-- So are its transfers. -/
theorem read_transfer (written : request.messageToSign anchor = .ok message) :
    ∀ transfer ∈ transfersOf actions,
      TransferAction.ofBytes transfer.1.toBytes = .ok transfer.1 := by
  intro transfer mem
  have short : transfer.1.toBytes.length ≤ Wire.sizeLimit :=
    (length_le_of_mem written).2 _ (holds.transfers ▸ List.mem_map_of_mem mem)
  exact Outcome.inContext_eq_ok_iff.mpr
    (TransferAction.lossless.roundTrips (Wire.Codec.lt_lengthBound short)).read_encode

theorem readActions_eq_ok (written : request.messageToSign anchor = .ok message) :
    request.readActions P = .ok ((ValidatedActions.ofNamed actions).issues,
      (ValidatedActions.ofNamed actions).transfers) := by
  refine readActions_eq_ok_iff.mpr ⟨?_, ?_⟩
  · rw [holds.issues, ValidatedActions.ofNamed, List.forall₂_map_left_iff,
      List.forall₂_map_right_iff, List.forall₂_same]
    exact holds.read_issue written
  · rw [holds.transfers, ValidatedActions.ofNamed, List.forall₂_map_left_iff,
      List.forall₂_map_right_iff, List.forall₂_same]
    exact holds.read_transfer written

end TokenRequest.Holds

end

section

variable {P : Type} [Suite P] {request : TokenRequest} {message : Bytes}

omit [Suite P] in
theorem Submission.holds_holding [PointGroup P] (application : SortedMap String Bytes)
    (actions : List (NamedAction P)) : (holding application actions).request.Holds actions :=
  ⟨rfl, rfl⟩

/-- A request is audited by everyone among the auditors who endorsed it. -/
theorem TokenRequest.auditedBy_withEndorsements [Suite.LawfulSignatures P] {auditors : List Signer}
    (none : request.auditorSignatures = []) (keys : ∀ auditor ∈ auditors, auditor.HoldsKey P)
    {identity : Identity} (endorsed : identity ∈ auditors.map Signer.identity) :
    (request.withEndorsements message auditors).AuditedBy P message identity := by
  obtain ⟨auditor, mem, rfl⟩ := List.mem_map.mp endorsed
  have there : (⟨auditor.identity, auditor.sign message⟩ : AuditorSignature) ∈
      (request.withEndorsements message auditors).auditorSignatures :=
    List.mem_append_right _ (List.mem_map_of_mem mem)
  obtain ⟨found, listed, same, first⟩ := AuditorSignature.exists_first there
  -- the first signature of the identity may be by another signer, who has the key all the same
  refine ⟨found, first, ?_⟩
  rw [withEndorsements, none, List.nil_append] at listed
  obtain ⟨other, otherMem, rfl⟩ := List.mem_map.mp listed
  have sameSigner : other.identity = auditor.identity := same
  rw [← sameSigner]
  exact (keys other otherMem).verify message

end

/-! ## Honest requests -/

section

variable {P : Type} [Suite P] [PointGroup.LawfulEncoding P] [PointGroup.Linear P]
  {pp : PublicParameters P} {ledger : Ledger} {anchor : String} {message : Bytes}
  {actions : List (NamedAction P)} {application : SortedMap String Bytes}

theorem issues_sound (made : pp.Made) (honest : ∀ action ∈ actions, action.Honest pp ledger) :
    ∀ issue ∈ issuesOf actions, issue.1.Valid pp ∧ issue.1.DisclosedBy pp.generators issue.2 := by
  rintro ⟨action, metadata⟩ mem
  cases honest _ (mem_issuesOf.mp mem) with
  | issue honest assembled => exact honest.sound made assembled

theorem transfers_sound (made : pp.Made) (honest : ∀ action ∈ actions, action.Honest pp ledger)
    (distinct : (ValidatedActions.ofNamed actions).spent.Nodup) :
    ∀ transfer ∈ transfersOf actions, transfer.1.Sound pp ledger transfer.2 := by
  rintro ⟨action, metadata⟩ mem
  have once : action.inputIds.Nodup :=
    (List.nodup_flatMap.mp distinct).1 action (List.mem_map_of_mem mem)
  cases honest _ (mem_transfersOf.mp mem) with
  | transfer honest assembled => exact honest.sound made assembled once

/-- The metadata and the inputs of the submission tell all of a request with honest actions. -/
theorem TokenRequest.Holds.disclosedBy {request : TokenRequest} (holds : request.Holds actions)
    (application : SortedMap String Bytes) (made : pp.Made)
    (honest : ∀ action ∈ actions, action.Honest pp ledger)
    (distinct : (ValidatedActions.ofNamed actions).spent.Nodup)
    (written : request.messageToSign anchor = .ok message) :
    request.DisclosedBy pp.generators (Submission.holding application actions).metadata
      (Submission.holding application actions).inputs := by
  unfold Submission.holding
  have issuesLength := congrArg List.length holds.issues
  have transfersLength := congrArg List.length holds.transfers
  rw [List.length_map] at issuesLength transfersLength
  refine ⟨?_, ?_, ?_, ?_, ?_⟩
  · rw [issuesLength, List.length_map]
  · rw [transfersLength, List.length_map]
  · rw [List.length_map, List.length_map]
  · intro k bytes told there isTold
    rw [holds.issues, List.getElem?_map] at there
    obtain ⟨issue, listed, rfl⟩ := Option.map_eq_some_iff.mp there
    rw [List.getElem?_map, listed] at isTold
    cases isTold
    have mem := List.mem_of_getElem? listed
    exact ⟨issue.1, holds.read_issue written issue mem, (issues_sound made honest issue mem).2⟩
  · intro k bytes told tokens there isTold isShown
    rw [holds.transfers, List.getElem?_map] at there
    obtain ⟨transfer, listed, rfl⟩ := Option.map_eq_some_iff.mp there
    rw [List.getElem?_map, listed] at isTold isShown
    cases isTold
    cases isShown
    have mem := List.mem_of_getElem? listed
    exact ⟨transfer.1, holds.read_transfer written transfer mem,
      (transfers_sound made honest distinct transfer mem).disclosed⟩

/-- Those who sign for honest actions are those whom the rules ask. -/
theorem signers_ofNamed (made : pp.Made) (honest : ∀ action ∈ actions, action.Honest pp ledger)
    (distinct : (ValidatedActions.ofNamed actions).spent.Nodup) :
    (ValidatedActions.ofNamed actions).signers ledger.time = signersOf actions := by
  rw [ValidatedActions.signers, signersOf, ValidatedActions.ofNamed, List.map_map, List.flatMap_map]
  refine congrArg (_ ++ ·) (List.flatMap_congr fun transfer mem => ?_)
  have sound := transfers_sound made honest distinct transfer mem
  rw [sound.extraSigners, List.append_nil]
  exact List.map_congr_left fun input listed =>
    Identity.entitledAt_plain (sound.plain input listed) ledger.time

variable [Suite.LawfulSignatures P]

/-- An honest request is acceptable once it is signed and endorsed. -/
theorem acceptable_of_honest (made : pp.Made)
    (honest : ∀ action ∈ actions, action.Honest pp ledger)
    (distinct : (ValidatedActions.ofNamed actions).spent.Nodup) {signers auditors : List Signer}
    (keys : ∀ signer ∈ signers ++ auditors, signer.HoldsKey P)
    (signing : signers.map Signer.identity = signersOf actions)
    (endorsing : ∀ auditor ∈ pp.auditors, auditor ∈ auditors.map Signer.identity)
    (written : (Submission.holding application actions).request.messageToSign anchor =
      .ok message) :
    (((Submission.holding application actions).request.withSignatures message
        signers).withEndorsements message auditors).Acceptable pp ledger anchor message
      (.ofNamed actions) := by
  obtain ⟨keysSigners, keysAuditors⟩ := List.forall_mem_append.mp keys
  have holds := (Submission.holds_holding application actions).withSignatures message signers
    |>.withEndorsements message auditors
  have written := TokenRequest.written_withEndorsements
    (TokenRequest.written_withSignatures written message signers) message auditors
  refine ⟨written, ?_, holds.readActions_eq_ok written, ?_, ?_, distinct, ?_⟩
  · exact fun auditor mem =>
      TokenRequest.auditedBy_withEndorsements rfl keysAuditors (endorsing auditor mem)
  · exact List.forall_mem_map.mpr fun issue mem => (issues_sound made honest issue mem).1
  · exact List.forall_mem_map.mpr fun transfer mem =>
      (transfers_sound made honest distinct transfer mem).valid
  · rw [signers_ofNamed made honest distinct, ← signing]
    show List.Forall₂ _ (signers.map Signer.identity) ([] ++ signers.map (·.sign message))
    rw [List.nil_append, List.forall₂_map_left_iff, List.forall₂_map_right_iff, List.forall₂_same]
    exact fun signer mem => (keysSigners signer mem).verify message

/-- A request with honest actions goes all the way under a new anchor, on any ledger and with any
parameters, if those who must sign do so in order, all auditors that the parameters name endorse, and the
request is not too long to be signed. The actions can be added one by one, everyone can sign and endorse;
the audit with the metadata and the inputs of the submission succeeds, before and after; the validator
accepts the endorsed request with the actions that were assembled; and the ledger applies them. -/
theorem Submission.accepted_of_honest (made : pp.Made)
    (fresh : anchor ∉ ledger.history.map LedgerEvent.anchor)
    (honest : ∀ action ∈ actions, action.Honest pp ledger)
    (distinct : (ValidatedActions.ofNamed actions).spent.Nodup) {signers auditors : List Signer}
    (keys : ∀ signer ∈ signers ++ auditors, signer.HoldsKey P)
    (signing : signers.map Signer.identity = signersOf actions)
    (endorsing : ∀ auditor ∈ pp.auditors, auditor ∈ auditors.map Signer.identity)
    (written : (holding application actions).request.messageToSign anchor = .ok message)
    (logger : Logger) :
    let submission := holding application actions
    ∃ signed endorsed,
      ofActions application actions = .ok submission ∧
      submission.request.signBy anchor signers = .ok signed ∧
      (∀ log, ((signed.endorseBy pp logger anchor auditors).perform log).1 = .ok endorsed) ∧
      (∀ request ∈ [submission.request, signed, endorsed], ∀ signer parent log,
        (((Auditor.create pp signer parent).check request submission.metadata submission.inputs
          anchor).perform log).1 = .ok ()) ∧
      (∀ parent log, (((Validator.create pp parent).validate ledger anchor endorsed).perform log).1 =
        .ok (.ofNamed actions)) ∧
      ∃ created after, (Ledger.apply anchor (ValidatedActions.ofNamed actions).issues
        (ValidatedActions.ofNamed actions).transfers).perform ledger = (.ok created, after) := by
  intro submission
  have holds : submission.request.Holds actions := holds_holding application actions
  have writtenSigned := TokenRequest.written_withSignatures written message signers
  have writtenEndorsed := TokenRequest.written_withEndorsements writtenSigned message auditors
  have acceptable := acceptable_of_honest made honest distinct keys signing endorsing written
  have audited {request : TokenRequest} (holds : request.Holds actions)
      (written : request.messageToSign anchor = .ok message) (signer : Option Signer)
      (parent : Logger) (log : List LogRecord) :
      (((Auditor.create pp signer parent).check request submission.metadata submission.inputs
        anchor).perform log).1 = .ok () :=
    Auditor.check_eq_ok_iff_inspect.mpr <| Auditor.inspect_eq_ok_iff.mpr <|
      holds.disclosedBy application made honest distinct written
  refine ⟨submission.request.withSignatures message signers,
    (submission.request.withSignatures message signers).withEndorsements message auditors,
    ofActions_eq_ok written, TokenRequest.signBy_eq_ok written signers, ?endorse, ?audit, ?validate, ?apply⟩
  case endorse =>
    exact fun log => Task.fst_perform_eq_ok_iff.mpr
      (TokenRequest.exists_perform_endorseBy pp logger writtenSigned auditors log)
  case audit =>
    simp only [List.forall_mem_cons, List.not_mem_nil, false_implies, implies_true, and_true]
    exact ⟨audited holds written, audited (holds.withSignatures message signers) writtenSigned,
      audited ((holds.withSignatures message signers).withEndorsements message auditors)
        writtenEndorsed⟩
  case validate =>
    exact fun _ _ => Validator.validate_eq_ok_iff.mpr ⟨message, acceptable⟩
  case apply =>
    exact ⟨_, _, acceptable.perform_apply_eq_ok fresh⟩

end

namespace Plain

/-! ## A request with a swap, change and a redeemed output -/

instance : Suite.LawfulSignatures Plain where
  verify_sign _ _ := if_pos rfl

/-- Parameters under which the sender of the swap issues and its recipient audits. -/
def governed : PublicParameters Plain :=
  { parameters with issuers := [sender.identity], auditors := [recipient.identity] }

set_option maxRecDepth 2048 in
theorem made_governed : governed.Made :=
  .of_check ⟨by decide, ⟨by decide, List.forall_mem_singleton.mpr swap_fits.sender⟩,
    ⟨by decide, List.forall_mem_singleton.mpr swap_fits.recipient⟩⟩ (by decide) (by decide)

/-- Five euros of the sender of the swap. -/
def coin : OwnedToken Plain :=
  let opening : Opening := ⟨"EUR", 5, 4⟩
  ⟨lockedId, ⟨sender.identity, opening.commitment generators⟩, opening, sender.auditInfo⟩

/-- A ledger that holds them, before the deadline of the swap. -/
def treasury : Ledger := (Ledger.empty 5).update "mint" [] [(lockedId, coin.token.toBytes)]

theorem spendable_coin : coin.Spendable treasury where
  read := Ledger.token?_eq_some SortedMap.get?_insert_self swap_fits.sender
  plain := isScript_sender
  described := .plain nofun sender_described

/-- The sender of the swap issues seven euros to its recipient. -/
def issueOrder : IssueOrder :=
  ⟨sender.identity, "EUR", [⟨recipient.identity, 7, recipient.auditInfo⟩], fun _ => typeBlinding "EUR"⟩

/-- The sender of the swap locks two euros in it, keeps two, and redeems one. -/
def splitOrder : TransferOrder Plain :=
  ⟨[coin], [.ofScript swap 2 swapInfo, ⟨sender.identity, 2, sender.auditInfo⟩, .redeem 1],
    fun _ => typeBlinding "EUR"⟩

theorem issueOrder_honest : issueOrder.Honest governed where
  named := by decide
  authorized := .inr List.mem_cons_self
  described := List.forall_mem_singleton.mpr (.plain nofun recipient_described)
  reliable _ _ _ _ _ := reliable _ _ _ _ _ _
  proper := commitType_typeBlinding "EUR"

theorem splitOrder_honest : splitOrder.Honest governed treasury where
  few := by decide
  spendable := List.forall_mem_singleton.mpr spendable_coin
  recipients := by
    have plain : sender.identity.MayHold treasury.time := fun isScript =>
      absurd (isScript_sender.symm.trans isScript) Bool.false_ne_true
    refine List.forall_mem_cons.mpr ⟨.inr ⟨swap_mayHold (by decide), locked_described⟩, ?_⟩
    refine List.forall_mem_cons.mpr ⟨.inr ⟨plain, .plain nofun sender_described⟩, ?_⟩
    exact List.forall_mem_singleton.mpr (.inl rfl)
  reliable _ _ _ _ _ := reliable _ _ _ _ _ _
  proper := commitType_typeBlinding "EUR"

set_option maxRecDepth 2048 in
theorem exists_assemble_issueOrder :
    ∃ action metadata, issueOrder.assemble governed = .ok (action, metadata) := by
  refine (IssueAction.exists_assemble_iff made_governed issueOrder_honest.reliable).mpr
    ⟨by decide, by decide, by decide, by decide, List.forall_mem_singleton.mpr (by decide)⟩

theorem exists_assemble_splitOrder :
    ∃ action metadata, splitOrder.assemble governed = .ok (action, metadata) := by
  refine (TransferAction.exists_assemble_iff made_governed splitOrder_honest.few
    fun _ _ _ _ _ _ => reliable _ _ _ _ _ _).mpr ⟨nofun, "EUR", by decide, ?_, rfl, by decide,
      by decide, ?_⟩
  · exact List.forall_mem_singleton.mpr ⟨rfl, decide_eq_true rfl, by decide⟩
  · exact List.forall_mem_cons.mpr ⟨by decide, List.forall_mem_cons.mpr
      ⟨by decide, List.forall_mem_singleton.mpr (by decide)⟩⟩

/-- Both orders are carried out. -/
structure Paid (issue : IssueAction Plain) (issueMetadata : IssueMetadata)
    (split : TransferAction Plain) (splitMetadata : TransferMetadata) : Prop where
  issued : issueOrder.assemble governed = .ok (issue, issueMetadata)
  made : splitOrder.assemble governed = .ok (split, splitMetadata)

theorem exists_paid : ∃ issue issueMetadata split splitMetadata,
    Paid issue issueMetadata split splitMetadata := by
  obtain ⟨issue, issueMetadata, issued⟩ := exists_assemble_issueOrder
  obtain ⟨split, splitMetadata, made⟩ := exists_assemble_splitOrder
  exact ⟨issue, issueMetadata, split, splitMetadata, issued, made⟩

theorem keys_paid : ∀ signer ∈ [sender.signer Plain, sender.signer Plain] ++ [recipient.signer Plain],
    signer.HoldsKey Plain := by
  have holdsKey_sender : (sender.signer Plain).HoldsKey Plain :=
    Credential.holdsKey_x509 (by decide) rawSender_fits
  have holdsKey_recipient : (recipient.signer Plain).HoldsKey Plain :=
    Credential.holdsKey_x509 (by decide) rawRecipient_fits
  refine List.forall_mem_cons.mpr ⟨holdsKey_sender, List.forall_mem_cons.mpr ⟨holdsKey_sender, ?_⟩⟩
  exact List.forall_mem_singleton.mpr holdsKey_recipient

namespace Paid

variable {issue : IssueAction Plain} {issueMetadata : IssueMetadata} {split : TransferAction Plain}
  {splitMetadata : TransferMetadata} (paid : Paid issue issueMetadata split splitMetadata)
include paid

set_option maxRecDepth 2048 in
/-- What is made to both orders is short enough to be signed. -/
theorem exists_message : ∃ message, (Submission.holding .empty [.transfer split splitMetadata,
    .issue issue issueMetadata]).request.messageToSign "pay" = .ok message := by
  have issued := IssueAction.assemble_eq_ok_iff.mp paid.issued
  obtain ⟨_, made⟩ := TransferAction.assemble_eq_ok_iff.mp paid.made
  have issueLength : issue.toBytes.length ≤ 168 + sender.identity.bytes.length +
      (1 * (1024 + 40) + 1 * (8 + 71 * 32)) :=
    issued.length_toBytes_le 1024 (List.forall_mem_singleton.mpr (by decide))
  have splitLength : split.toBytes.length ≤ 232 + (ActionInput.codec.list.encode split.inputs).length +
      (3 * (1024 + 40) + (1 + 3) * (8 + 71 * 32)) :=
    made.length_toBytes_le 1024 (by decide)
  have senderLength : sender.identity.bytes.length ≤ 1024 := by decide
  have inputsLength : (ActionInput.codec.list.encode split.inputs).length ≤ 1024 := by
    rw [made.inputs_eq]
    decide
  have one (bytes : Bytes) :
      (Wire.Codec.bytes.list.encode [bytes]).length = 8 + (8 + bytes.length) := by
    rw [Wire.Codec.length_encode_list, List.flatMap_singleton, Wire.Codec.length_encode_bytes]
  have anchorLength : (Wire.Codec.text.encode "pay").length = 11 := by decide
  have limit : Wire.sizeLimit = 67108864 := rfl
  refine TokenRequest.exists_messageToSign_iff.mpr ?_
  rw [TokenRequest.length_signedContent]
  show (Wire.Codec.bytes.list.encode [issue.toBytes]).length +
    ((Wire.Codec.bytes.list.encode [split.toBytes]).length + _) ≤ _
  rw [one, one, anchorLength]
  omega

theorem honest : ∀ action ∈ [NamedAction.transfer split splitMetadata, .issue issue issueMetadata],
    action.Honest governed treasury := by
  refine List.forall_mem_cons.mpr ⟨.transfer splitOrder_honest paid.made, ?_⟩
  exact List.forall_mem_singleton.mpr (.issue issueOrder_honest paid.issued)

theorem distinct : (ValidatedActions.ofNamed [NamedAction.transfer split splitMetadata,
    .issue issue issueMetadata]).spent.Nodup := by
  obtain ⟨_, made⟩ := TransferAction.assemble_eq_ok_iff.mp paid.made
  show (split.inputIds ++ []).Nodup
  rw [List.append_nil, made.inputIds_eq]
  exact List.nodup_singleton lockedId

/-- The sender signs as the issuer of one action and as the owner of what the other spends. -/
theorem signing : [sender.signer Plain, sender.signer Plain].map Signer.identity =
    signersOf [.transfer split splitMetadata, .issue issue issueMetadata] := by
  obtain ⟨_, made⟩ := TransferAction.assemble_eq_ok_iff.mp paid.made
  show _ = [issue.issuer] ++ (split.inputs.map (·.token.owner) ++ [])
  rw [(IssueAction.assemble_eq_ok_iff.mp paid.issued).issuer_eq, made.inputs_eq]
  rfl

/-- The last output of the split is redeemed, so it has no id. -/
theorem map_fst_created : (Ledger.created "pay" (Ledger.outputsOf [issue] [split])).map Prod.fst =
    [⟨"pay", 0⟩, ⟨"pay", 1⟩, ⟨"pay", 2⟩] := by
  obtain ⟨minted, outputs, ownsMinted⟩ :=
    List.map_eq_singleton_iff.mp (IssueAction.assemble_eq_ok_iff.mp paid.issued).tells.owners
  obtain ⟨_, made⟩ := TransferAction.assemble_eq_ok_iff.mp paid.made
  obtain ⟨lock, _, splits, ownsLock, others⟩ := List.map_eq_cons_iff.mp made.tells.owners
  obtain ⟨change, _, rfl, ownsChange, others⟩ := List.map_eq_cons_iff.mp others
  obtain ⟨redeemed, rfl, ownsRedeemed⟩ := List.map_eq_singleton_iff.mp others
  have all : Ledger.outputsOf [issue] [split] = [minted, lock, change, redeemed] := by
    simp only [Ledger.outputsOf, List.flatMap_singleton, outputs, splits, List.cons_append,
      List.nil_append]
  have owned : minted.isRedeemed = false ∧ lock.isRedeemed = false ∧ change.isRedeemed = false ∧
      redeemed.isRedeemed = true := by
    simp only [Token.isRedeemed, ownsMinted, ownsLock, ownsChange, ownsRedeemed]
    decide
  rw [all]
  simp [Ledger.created, withPositions, List.range_succ, owned]

end Paid

/-- Both orders are carried out, and what was made goes all the way in one request. -/
theorem accepted_of_honest_split :
    ∃ issue issueMetadata split splitMetadata,
      issueOrder.assemble governed = .ok (issue, issueMetadata) ∧
      splitOrder.assemble governed = .ok (split, splitMetadata) ∧
      ∃ submission signed endorsed,
        Submission.ofActions .empty
          [.transfer split splitMetadata, .issue issue issueMetadata] = .ok submission ∧
        submission.request.signBy "pay" [sender.signer Plain, sender.signer Plain] = .ok signed ∧
        ((signed.endorseBy governed .default "pay" [recipient.signer Plain]).perform []).1 =
          .ok endorsed ∧
        (((Auditor.create governed none .default).check endorsed submission.metadata
          submission.inputs "pay").perform []).1 = .ok () ∧
        (((Validator.create governed .default).validate treasury "pay" endorsed).perform []).1 =
          .ok ⟨[issue], [split]⟩ ∧
        ∃ created after,
          (Ledger.apply "pay" [issue] [split]).perform treasury = (.ok created, after) := by
  obtain ⟨issue, issueMetadata, split, splitMetadata, paid⟩ := exists_paid
  refine ⟨issue, issueMetadata, split, splitMetadata, paid.issued, paid.made, ?_⟩
  obtain ⟨message, written⟩ := paid.exists_message
  have fresh : "pay" ∉ treasury.history.map LedgerEvent.anchor := by decide
  have endorsing : ∀ auditor ∈ governed.auditors,
      auditor ∈ [recipient.signer Plain].map Signer.identity := fun _ listed => listed
  obtain ⟨signed, endorsed, added, signs, endorses, audits, validates, applies⟩ :=
    Submission.accepted_of_honest made_governed fresh paid.honest paid.distinct keys_paid paid.signing
      endorsing written .default
  exact ⟨_, signed, endorsed, added, signs, endorses [], audits endorsed (by simp) none .default [],
    validates .default [], applies⟩

end Plain

end ConfidentialToken
