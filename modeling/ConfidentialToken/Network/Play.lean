import ConfidentialToken.Document.Objects
import ConfidentialToken.Network.Forgery

/-!
# Playing networks from documents

A course of events as a list of documents, one for each move, and what can be seen of the network after
each: the answer to the move, and the unspent tokens with the names of their owners. The list goes on
after a move that fails.
-/

namespace ConfidentialToken

namespace Network

open Form

variable {P : Type} [Suite P]

/-! ## What is shown -/

/-- An owner by name; nobody is null. -/
def ofOwner (network : Network P) (owner : Identity) : Document :=
  match network.ownerName owner with
  | .nobody => .null
  | .known name => .text name
  | .unknown => .text "?"

/-- Owners by name. -/
def ofOwners (network : Network P) (owners : List Identity) : Document :=
  .list (owners.map network.ofOwner)

/-- Ids as they stand in sentences. -/
def ofIds (ids : List TokenId) : Document := text.list.write (ids.map TokenId.text)

/-- What disclosures tell: type, value and issuer; null for one that is held back. -/
def ofDisclosures (network : Network P) (disclosures : List Bytes) : Document :=
  let told (d : Disclosure) : Document :=
    .list [.text d.opening.tokenType, u64.write d.opening.value,
      (d.issuer.map network.ofOwner).getD .null]
  .list <| disclosures.map fun bytes =>
    if bytes = [] then .null else .result told (Disclosure.ofBytes bytes)

/-- What both kinds of actions show. -/
def outputFields (network : Network P) (outputs : List (Token P)) (disclosures : List Bytes)
    (proof : Bytes) (matched : Outcome Unit) : List (String × Document) :=
  [("owners", network.ofOwners (outputs.map (·.owner))),
    ("openings", network.ofDisclosures disclosures), ("proof_len", nat.write proof.length),
    ("match", .verdict matched)]

/-- An action with its metadata. -/
def ofAction (network : Network P) : NamedAction P → Document
  | .issue action metadata => .fields <|
    network.outputFields action.outputs metadata.outputsMetadata action.proof
      (metadata.matchAction action)
  | .transfer action metadata => .fields <|
    network.outputFields action.outputs metadata.outputsMetadata action.proof
        (metadata.matchAction action) ++
      [("inputs", .list (action.inputs.map fun input =>
          .list [.text input.id.text, network.ofOwner input.token.owner])),
        ("is_redeem", .bool action.redeems),
        ("extra_signers", network.ofOwners action.extraSigners)]

/-- Filtered metadata beside the metadata it comes from. -/
def ofFiltered (network : Network P) (before after : RequestMetadata) (again : Outcome RequestMetadata) :
    Document :=
  .fields [
    ("idempotent", .bool (match again with
      | .ok twice => twice = after
      | .error _ => false)),
    ("spent_before", ofIds before.spentTokenIds), ("spent", ofIds after.spentTokenIds),
    ("issues", .list (after.issues.map fun m => .fields
      [("receivers", network.ofOwners m.receivers),
        ("openings", network.ofDisclosures m.outputsMetadata)])),
    ("transfers", .list (after.transfers.map fun m => .fields
      [("senders", network.ofOwners m.senders),
        ("sender_audit_infos", bytes.list.write m.senderAuditInfos),
        ("receivers", network.ofOwners m.receivers),
        ("receiver_audit_infos", bytes.list.write m.receiverAuditInfos),
        ("openings", network.ofDisclosures m.outputsMetadata)])),
    ("application", bytes.map.write after.application)]

/-- An event of the ledger. -/
def ofEvent (event : LedgerEvent) : Document :=
  .fields [("anchor", .text event.anchor), ("created", ofIds event.created),
    ("spent", ofIds event.spent)]

/-! ## What is read -/

/-- The credential of an actor. -/
def readActor (P : Type) [Suite P] (d : Document) : Outcome Credential := do
  let id ← text.get d "eid"
  let seed ← (block 32).get d "seed"
  let handle ← bytes.get d "revocation_handle"
  if (← text.get d "kind") = "idemix" then
    return .idemix P id seed handle (← scalar.get d "blinding")
  else return .x509 P id seed handle

/-- The actors of a network by name. -/
def actorsForm (P : Type) [Suite P] : Form (SortedMap String Credential) :=
  Form.map ⟨readActor P, fun _ => .null⟩

/-- Outputs: a name, or null to redeem, and a value each. -/
def readOutputs (d : Document) : Outcome (List (Option String × UInt64)) := do
  (← d.items).mapM fun output => do
    match ← output.items with
    | [name, value] => return (← text.option.read name, ← u64.read value)
    | _ => throw <| .malformed "expected an output"

/-- What a sender changes of a token. -/
def readFalseInput (d : Document) : Outcome FalseInput := do
  return ⟨← u64.get? d "value", ← text.get? d "token_type", ← text.get? d "owner",
    ← u64.get? d "index", ← text.get? d "audit_info_of"⟩

/-- Inputs: an id each, and perhaps changes. -/
def readInputs (d : Document) : Outcome (List (TokenId × FalseInput)) := do
  (← d.items).mapM fun input => do
    match ← input.items with
    | [txId, index] => return (⟨← text.read txId, ← u64.read index⟩, .honest)
    | [txId, index, changes] =>
      return (⟨← text.read txId, ← u64.read index⟩, ← readFalseInput changes)
    | _ => throw <| .malformed "expected an input"

/-- A forgery that names an actor, or holds a value. -/
def readForgery (network : Network P) (d : Document) : Outcome Forgery := do
  let actor : Outcome Credential := do find network.actors (← text.get d "with")
  match ← text.get d "what" with
  | "value" => return .value (← u64.get d "with")
  | "token_type" => return .tokenType (← text.get d "with")
  | "blinding" => return .blinding (← scalar.get d "with")
  | "issuer" => return .noIssuer
  | "opening_bytes" => return .disclosure (← bytes.get d "with")
  | "audit_info_of" => return .auditInfo (← actor).auditInfo
  | "audit_info" => return .auditInfo (← bytes.get d "with")
  | "swap_audit_infos" => return .swapAuditInfos
  | "swap_openings" => return .swapDisclosures
  | "pop_opening" => return .dropDisclosure
  | "pop_audit_info" => return .dropAuditInfo
  | "sender_audit_info" => return .senderAuditInfo (← actor).auditInfo
  | "pop_sender" => return .dropSender
  | "pop_inputs" => return .dropInputs
  | "pop_input" => return .dropInput
  | "input_owner" => return .inputOwner (← actor).identity
  | "no_issues" => return .noIssues
  | "no_transfers" => return .noTransfers
  | what => throw <| .malformed s!"unknown forgery [{what}]"

/-- The change that a forgery makes; none without one. -/
def readChange (network : Network P) (d : Document) : Outcome (Submission P → Submission P) := do
  match d.field "forge" with
  | .null => return id
  | forge =>
    let forgery ← network.readForgery forge
    let onIssue := (← text.get? forge "on") = some "issue"
    return forgery.onSubmission ⟨onIssue, ← nat.getD forge "action" 0, ← nat.getD forge "output" 0⟩

/-! ## Moves -/

/-- Moves that make or change an action; the answer shows the action. -/
def playAction (kind : String) (d : Document) : Move P (Option (NamedAction P)) := do
  let name : Outcome String := text.get d "as"
  let base : Outcome String := text.get d "action"
  match kind with
  | "issue" =>
    some <$> issue (← name) (← text.get d "issuer") (← text.get d "type")
      (← readOutputs (d.field "to"))
  | "transfer" =>
    some <$> transfer (← name) (← readInputs (d.field "inputs")) (← readOutputs (d.field "to"))
  | "extra_signer" =>
    some <$> addExtraSigner (← base) (← text.get d "signer") (← bool.getD d "in_metadata" true)
  | "graft" =>
    let donor ← text.get d "from"
    let part := if (← text.get? d "part") = some "outputs" then .outputs else .proof
    some <$> graft (← name) (← base) donor part
  | _ => return none

/-- Moves about a request. -/
def playRequest (kind : String) (d : Document) : Move P (Option Document) := do
  let request : Outcome String := text.get d "request"
  let anchor : Outcome String := text.get d "anchor"
  match kind with
  | "request" =>
    let made ← addRequest (← text.get d "as") (← text.list.get d "actions")
      (← bytes.map.getD d "application" .empty)
    return some (nat.list.write [made.request.issues.length, made.request.transfers.length])
  | "sign" =>
    let signed ← sign (← request) (← anchor) (← text.list.get d "by")
    return some (nat.write signed.signatures.length)
  | "drop_signature" =>
    return some (nat.write (← dropSignature (← request)).signatures.length)
  | "endorse" =>
    let endorsed ← endorse (← request) (← anchor) (← text.get? d "by")
    return some (nat.write endorsed.auditorSignatures.length)
  | "audit" =>
    audit (← request) (← anchor) (← (← get).readChange d)
    return some .null
  | "validate" =>
    let valid ← validate (← request) (← anchor) (← bool.getD d "bytes" false)
    return some (nat.list.write [valid.issues.length, valid.transfers.length])
  | "submit" => return some (ofIds (← submit (← request) (← anchor)))
  | "filter" =>
    let ids ← text.list.get d "eids"
    let (before, after) ← filter (← request) ids
    return some ((← get).ofFiltered before after (filtered ids after))
  | _ => return none

/-- The remaining moves. -/
def playOther (kind : String) (d : Document) : Move P Document := do
  match kind with
  | "script" =>
    let lock := HashLock.ofPreImage (← bytes.get d "pre_image") (← hashFunction.get d "func")
      (← imageEncoding.get d "encoding")
    let (script, info) ← addScript (← text.get d "as") (← text.get d "sender")
      (← text.get d "recipient") (← u64.get d "deadline") lock
    return .fields [("owner", identity.write script.toIdentity),
      ("audit_info", bytes.write info.toBytes)]
  | "set_metadata" =>
    let action ← text.get d "action"
    let value ← bytes.get d "value"
    match ← text.get? d "claim" with
    | some script => return bytes.map.write (← setClaim action script value)
    | none => return bytes.map.write (← setMetadata action (← text.get d "key") value)
  | "set_time" =>
    setTime (← u64.get d "time")
    return .null
  | "history" => return .list ((← get).ledger.history.map ofEvent)
  | "find_pre_image" => return bytes.option.write (← findPreImage (← text.get d "script"))
  | _ => throw <| .malformed s!"unknown move [{kind}]"

/-- Makes one move. -/
def play (d : Document) : Move P Document := do
  let kind ← text.get d "do"
  match ← playAction kind d with
  | some action => return (← get).ofAction action
  | none =>
    match ← playRequest kind d with
    | some answer => return answer
    | none => playOther kind d

/-- The answer to a move, and the unspent tokens after it. -/
def ofMove (network : Network P) (answer : Outcome Document) : Document :=
  let unspent := network.ledger.unspent.map fun id =>
    let token : Option (Token P) := network.ledger.token? id
    Document.list [.text s!"{id.txId}:{id.index}",
      (token.map fun t => network.ofOwner t.owner).getD (.text "?")]
  .fields [("step", .result (fun d => d) answer), ("unspent", .list unspent)]

/-- Makes moves one after the other. -/
def playAll : Network P → List Document → List Document
  | _, [] => []
  | network, d :: rest =>
    match (play d).run network with
    | .ok (answer, network) => network.ofMove (.ok answer) :: network.playAll rest
    | .error e => network.ofMove (.error e) :: network.playAll rest

/-- Makes a network and lets it go through moves. -/
def playScenario (P : Type) [Suite P] (d : Document) (tapes : Nat → Draws) : Outcome Document := do
  let network : Network P ← create (← u64.get d "bits") (← text.list.get d "issuers")
    (← text.list.get d "auditors") (← (actorsForm P).get d "actors") (← u64.get d "time") tapes
  return .fields [("params", .text network.parameters.identifier),
    ("steps", .list (network.playAll (← (d.field "steps").items)))]

end Network

end ConfidentialToken
