import ConfidentialToken.Assembly
import ConfidentialToken.Audit
import ConfidentialToken.Identity.Credential
import ConfidentialToken.Metadata.Filter
import ConfidentialToken.Validation

/-!
# A network of named parties

One value holds a whole network: who takes part, the scripts, actions and requests that were made,
what the holders of tokens know about them, and the ledger. Everything has a name, so that a course of
events can be told as a list of moves. A move that fails changes nothing.
-/

namespace ConfidentialToken

/-- An action together with its metadata. -/
inductive NamedAction (P : Type) where
  | issue (action : IssueAction P) (metadata : IssueMetadata)
  | transfer (action : TransferAction P) (metadata : TransferMetadata)

/-- A request, and what its maker gives to the auditor. -/
structure Submission (P : Type) where
  request : TokenRequest
  metadata : RequestMetadata
  /-- The tokens that each transfer spends. -/
  inputs : List (List (Token P))

namespace Submission

variable {P : Type} [PointGroup P]

/-- Adds an action to a submission. -/
def add (submission : Submission P) : NamedAction P → Outcome (Submission P)
  | .issue action metadata => do
    return { submission with
      request := ← submission.request.addIssue action
      metadata := { submission.metadata with issues := submission.metadata.issues ++ [metadata] } }
  | .transfer action metadata => do
    return {
      request := ← submission.request.addTransfer action
      metadata :=
        { submission.metadata with transfers := submission.metadata.transfers ++ [metadata] }
      inputs := submission.inputs ++ [action.inputs.map (·.token)] }

/-- The submission of actions that are added one by one, without signatures. -/
def ofActions (application : SortedMap String Bytes) (actions : List (NamedAction P)) :
    Outcome (Submission P) :=
  actions.foldlM add ⟨.empty, ⟨[], [], application⟩, []⟩

end Submission

/-- A network of named parties. -/
structure Network (P : Type) where
  parameters : PublicParameters P
  actors : SortedMap String Credential
  scripts : SortedMap String (Script × ScriptInfo)
  actions : SortedMap String (NamedAction P)
  requests : SortedMap String (Submission P)
  /-- What is known about the tokens that were made, spent ones included. -/
  wallet : SortedMap TokenId (OwnedToken P)
  ledger : Ledger
  /-- A tape of draws for every action to be made. -/
  tapes : Nat → Draws

/-- A move in a network. -/
abbrev Move (P α : Type) := StateT (Network P) Outcome α

/-- How an owner is called. -/
inductive OwnerName where
  | nobody
  | known (name : String)
  | unknown
deriving DecidableEq, Repr

namespace Network

variable {P : Type} [Suite P]

/-- A network of actors, some of which issue and some of which audit, with an empty ledger. -/
def create (bits : UInt64) (issuers auditors : List String) (actors : SortedMap String Credential)
    (time : UInt64) (tapes : Nat → Draws) : Outcome (Network P) := do
  let identities (names : List String) := (names.filterMap actors.get?).map (·.identity)
  let parameters ← PublicParameters.ofBitLength bits (identities issuers) (identities auditors)
  return ⟨parameters, actors, .empty, .empty, .empty, .empty, .empty time, tapes⟩

/-! ## Names -/

/-- The value under a name. -/
def find {α : Type} (values : SortedMap String α) (name : String) : Outcome α :=
  match values.get? name with
  | some value => .ok value
  | none => .error <| .malformed s!"nothing is named [{name}]"

/-- The values under names. -/
def findAll {α : Type} (values : SortedMap String α) (names : List String) : Outcome (List α) :=
  names.mapM (find values)

/-- How an identity is called: by the name of an actor, or else of a script. -/
def ownerName (network : Network P) (owner : Identity) : OwnerName :=
  if owner.isNone then .nobody
  else
    match network.actors.entries.find? (·.2.identity = owner) with
    | some (name, _) => .known name
    | none =>
      match network.scripts.entries.find? (·.2.1.toIdentity = owner) with
      | some (name, _) => .known name
      | none => .unknown

/-- The recipient of a value under a name: an actor, a script, or nobody. -/
def recipient (network : Network P) : Option String × UInt64 → Outcome Recipient
  | (none, value) => .ok (.redeem value)
  | (some name, value) =>
    match network.actors.get? name with
    | some actor => .ok ⟨actor.identity, value, actor.auditInfo⟩
    | none => do
      let (script, info) ← find network.scripts name
      return .ofScript script value info

/-- The recipients of values under names. -/
def recipients (network : Network P) (outputs : List (Option String × UInt64)) :
    Outcome (List Recipient) :=
  outputs.mapM network.recipient

/-- Keeps an action under a name. -/
def keep (name : String) (action : NamedAction P) : Move P (NamedAction P) := do
  modify fun network => { network with actions := network.actions.insert name action }
  return action

/-- The draws for one action. -/
def nextTape : Move P Draws := do
  let network ← get
  set { network with tapes := fun n => network.tapes (n + 1) }
  return network.tapes 0

/-! ## Making actions -/

/-- Makes a script between two actors that a pre-image of its hash opens. -/
def addScript (name sender recipient : String) (deadline : UInt64) (lock : HashLock) :
    Move P (Script × ScriptInfo) := do
  let network ← get
  let sender ← find network.actors sender
  let recipient ← find network.actors recipient
  let entry : Script × ScriptInfo :=
    (⟨sender.identity, recipient.identity, deadline, lock⟩, ⟨sender.auditInfo, recipient.auditInfo⟩)
  set { network with scripts := network.scripts.insert name entry }
  return entry

/-- Makes an issue. -/
def issue (name issuer tokenType : String) (outputs : List (Option String × UInt64)) :
    Move P (NamedAction P) := do
  let draws ← nextTape
  let network ← get
  let issuer ← find network.actors issuer
  let recipients ← network.recipients outputs
  let (action, metadata) ←
    IssueAction.assemble network.parameters issuer.identity tokenType recipients draws
  keep name (.issue action metadata)

/-- What a dishonest sender changes of a token that it spends. -/
structure FalseInput where
  value : Option UInt64
  tokenType : Option String
  /-- The name of an actor. -/
  owner : Option String
  index : Option UInt64
  /-- The name of the actor whose audit info is given. -/
  auditInfoOf : Option String

/-- The input without changes. -/
def FalseInput.honest : FalseInput := ⟨none, none, none, none, none⟩

/-- A token of the wallet as a sender presents it. -/
def present (network : Network P) (id : TokenId) (changes : FalseInput) :
    Outcome (OwnedToken P) := do
  let owned ← match network.wallet.get? id with
    | some owned => pure owned
    | none => throw <| .malformed s!"token {id.text} is not in the wallet"
  let owner ← match changes.owner with
    | some name => (find network.actors name).map (·.identity)
    | none => pure owned.token.owner
  let auditInfo ← match changes.auditInfoOf with
    | some name => (find network.actors name).map (·.auditInfo)
    | none => pure owned.auditInfo
  return {
    id := { id with index := changes.index.getD id.index }
    token := { owned.token with owner }
    opening := { owned.opening with
      value := changes.value.getD owned.opening.value
      tokenType := changes.tokenType.getD owned.opening.tokenType }
    auditInfo }

/-- Tokens of the wallet as a sender presents them. -/
def presentAll (network : Network P) (inputs : List (TokenId × FalseInput)) :
    Outcome (List (OwnedToken P)) :=
  inputs.mapM fun (id, changes) => network.present id changes

/-- Makes a transfer of tokens of the wallet. -/
def transfer (name : String) (inputs : List (TokenId × FalseInput))
    (outputs : List (Option String × UInt64)) : Move P (NamedAction P) := do
  let draws ← nextTape
  let network ← get
  let inputs ← network.presentAll inputs
  let recipients ← network.recipients outputs
  let (action, metadata) ← TransferAction.assemble network.parameters inputs recipients draws
  keep name (.transfer action metadata)

/-- Puts a value under a metadata key of an action. -/
def setMetadata (name key : String) (value : Bytes) : Move P (SortedMap String Bytes) := do
  match ← find (← get).actions name with
  | .issue action metadata =>
    let action := action.setMetadata key value
    discard <| keep name (.issue action metadata)
    return action.metadata
  | .transfer action metadata =>
    let action := action.setMetadata key value
    discard <| keep name (.transfer action metadata)
    return action.metadata

/-- Puts a value under the claim key of a script. -/
def setClaim (name script : String) (preImage : Bytes) : Move P (SortedMap String Bytes) := do
  let (script, _) ← find (← get).scripts script
  setMetadata name (HashLock.claimKey script.lock.hash) preImage

/-- Adds an actor to the extra signers of a transfer, and of the metadata if `announced`. -/
def addExtraSigner (name signer : String) (announced : Bool) : Move P (NamedAction P) := do
  let network ← get
  let signer := (← find network.actors signer).identity
  let added (signers : List Identity) := if announced then signers ++ [signer] else signers
  match ← find network.actions name with
  | .issue action metadata =>
    keep name (.issue action { metadata with extraSigners := added metadata.extraSigners })
  | .transfer action metadata =>
    keep name <| .transfer (action.addExtraSigner signer)
      { metadata with extraSigners := added metadata.extraSigners }

/-- What a grafted transfer takes over. -/
inductive Graft where
  | proof
  /-- The outputs, and all metadata but the senders. -/
  | outputs

/-- Makes an action from two others of one kind: that of `base` with a part of `donor`. An issue takes
over the proof, whatever the part. -/
def graft (name base donor : String) (part : Graft) : Move P (NamedAction P) := do
  let network ← get
  match ← find network.actions base, ← find network.actions donor, part with
  | .issue action metadata, .issue other _, _ =>
    keep name <| .issue { action with proof := other.proof, metadata := .empty } metadata
  | .transfer action metadata, .transfer other _, .proof =>
    let grafted := { action with proof := other.proof, metadata := .empty, extraSigners := [] }
    keep name <| .transfer grafted metadata
  | .transfer action metadata, .transfer other otherMetadata, .outputs =>
    let grafted := { action with outputs := other.outputs, metadata := .empty, extraSigners := [] }
    keep name <| .transfer grafted { otherMetadata with
      senders := metadata.senders
      senderAuditInfos := metadata.senderAuditInfos }
  | _, _, _ => throw <| .malformed s!"[{base}] and [{donor}] are of different kinds"

/-! ## Requests -/

/-- Makes a request of actions as they are now. -/
def addRequest (name : String) (actions : List String) (application : SortedMap String Bytes) :
    Move P (Submission P) := do
  let network ← get
  let actions ← findAll network.actions actions
  let submission ← Submission.ofActions application actions
  set { network with requests := network.requests.insert name submission }
  return submission

/-- Changes the request of a submission. -/
def changeRequest (name : String) (change : TokenRequest → TokenRequest) :
    Move P TokenRequest := do
  let network ← get
  let submission ← find network.requests name
  let request := change submission.request
  set { network with requests := network.requests.insert name { submission with request } }
  return request

/-- Adds the signatures of actors to a request. -/
def sign (name anchor : String) (actors : List String) : Move P TokenRequest := do
  let network ← get
  let signers ← findAll network.actors actors
  let submission ← find network.requests name
  let signed ← signers.foldlM (fun request actor => request.sign (actor.signer P) anchor)
    submission.request
  changeRequest name fun _ => signed

/-- Takes the last signature from a request. -/
def dropSignature (name : String) : Move P TokenRequest :=
  changeRequest name fun request => { request with signatures := request.signatures.dropLast }

/-- The auditor of the network that signs as an actor, if one is named. -/
def auditor (network : Network P) (signer : Option String) : Outcome (Auditor P) := do
  let signer ← signer.mapM (find network.actors)
  return .create network.parameters (signer.map (·.signer P)) .default

/-- The result of a task that reports, without its records. -/
def silently {α : Type} (task : Logged α) : Outcome α := (task.perform []).1

/-- Has an auditor endorse a request. -/
def endorse (name anchor : String) (signer : Option String) : Move P TokenRequest := do
  let network ← get
  let submission ← find network.requests name
  let auditor ← network.auditor signer
  let signature ← silently (auditor.endorse (some submission.request) anchor)
  match auditor.signer with
  | some signer => changeRequest name (·.addAuditorSignature signer.identity signature)
  | none => return submission.request

/-- Has an auditor check a submission, in which something may have been changed. -/
def audit (name anchor : String) (change : Submission P → Submission P) : Move P Unit := do
  let network ← get
  let submission := change (← find network.requests name)
  let auditor ← network.auditor none
  silently (auditor.check submission.request submission.metadata submission.inputs anchor)

/-! ## The ledger -/

/-- The validator of the network. -/
def validator (network : Network P) : Validator P := .create network.parameters .default

/-- Validates a request, by its byte form if `asBytes`. -/
def validate (name anchor : String) (asBytes : Bool) : Move P (ValidatedActions P) := do
  let network ← get
  let request := (← find network.requests name).request
  if asBytes then
    silently <| network.validator.validateBytes network.ledger anchor (← request.serialize)
  else silently <| network.validator.validate network.ledger anchor request

/-- What the metadata tells about the tokens that a request made. -/
def learned (anchor : String) (outputs : List (Token P)) (metadata : RequestMetadata) :
    List (OwnedToken P) :=
  let disclosures := metadata.issues.flatMap (·.outputsMetadata) ++
    metadata.transfers.flatMap (·.outputsMetadata)
  let auditInfos := metadata.issues.flatMap (·.receiverAuditInfos) ++
    metadata.transfers.flatMap (·.receiverAuditInfos)
  (withPositions (outputs.zip (disclosures.zip auditInfos))).filterMap
    fun (index, token, disclosure, auditInfo) => do
      let disclosure ← (Disclosure.ofBytes disclosure).toOption
      return ⟨⟨anchor, UInt64.ofNat index⟩, token, disclosure.opening, auditInfo⟩

/-- Validates a request and applies it to the ledger. -/
def submit (name anchor : String) : Move P (List TokenId) := do
  let actions ← validate name anchor false
  let network ← get
  let submission ← find network.requests name
  let (applied, ledger) :=
    (Ledger.apply anchor actions.issues actions.transfers).perform network.ledger
  let created ← applied
  let outputs := Ledger.outputsOf actions.issues actions.transfers
  let tokens : List (OwnedToken P) :=
    (learned anchor outputs submission.metadata).filter (·.id ∈ created)
  let wallet := tokens.foldl (fun wallet token => wallet.insert token.id token) network.wallet
  set { network with ledger, wallet }
  return created

/-- Moves the time of the ledger. -/
def setTime (time : UInt64) : Move P Unit :=
  modify fun network => { network with ledger := network.ledger.setTime time }

/-- Looks for a pre-image of a script in all transfers that were made. -/
def findPreImage (script : String) : Move P (Option Bytes) := do
  let network ← get
  let (script, _) ← find network.scripts script
  let transfers := network.actions.entries.filterMap fun (_, action) =>
    match action with
    | .transfer action _ => some action
    | .issue _ _ => none
  return script.lock.findPreImage transfers

/-- What is left of metadata for some enrollment ids. -/
def filtered (ids : List String) (metadata : RequestMetadata) : Outcome RequestMetadata :=
  silently (Metadata.filterBy Identity.enrollmentId (Metadata.logger .default) ids metadata)

/-- The metadata of a request, and what is left of it for some enrollment ids. -/
def filter (name : String) (ids : List String) : Move P (RequestMetadata × RequestMetadata) := do
  let metadata := (← find (← get).requests name).metadata
  return (metadata, ← filtered ids metadata)

end Network

end ConfidentialToken
