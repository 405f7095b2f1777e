import ConfidentialToken.Assembly
import ConfidentialToken.Audit
import ConfidentialToken.Document

/-!
# Forms of the library's objects

The named fields under which tokens, identities, actions, requests and their metadata are exchanged as
documents.
-/

namespace ConfidentialToken

namespace Form

variable {P : Type} [PointGroup P]

/-! ## Scalars and points -/

/-- A canonical scalar as 32 bytes. -/
def scalar : Form Scalar :=
  (block 32).refine
    (fun b => match Scalar.ofBlock? b with
      | some s => .ok s
      | none => .error <| .malformed "expected a scalar")
    Scalar.toBlock

/-- A point as 32 bytes. -/
def point : Form P :=
  (block 32).refine
    (fun b => match PointGroup.decode b with
      | some p => .ok p
      | none => .error <| .malformed "expected a point")
    PointGroup.encode

/-- A commitment as 32 bytes. -/
def commitment : Form (Commitment P) := point.refine (fun p => .ok ⟨p⟩) Commitment.point

/-- Three generators, checked. -/
def generators : Form (Generators P) := point.list.refine Generators.ofPoints Generators.toList

/-! ## Identities and scripts -/

/-- An identity as its bytes. -/
def identity : Form Identity := bytes.refine (fun b => .ok ⟨b⟩) Identity.bytes

/-- A typed identity. -/
def typedIdentity : Form TypedIdentity :=
  record (fun d => do return ⟨← text.get d "identity_type", ← identity.get d "identity"⟩)
    fun t => [("identity_type", text.write t.tag), ("identity", identity.write t.identity)]

/-- A raw identity that shows its enrollment id. -/
def x509 : Form X509Identity :=
  record (fun d => do return ⟨← text.get d "enrollment_id", ← (block 32).get d "public_key"⟩)
    fun i => [("enrollment_id", text.write i.enrollmentId),
      ("public_key", (block 32).write i.publicKey)]

/-- A raw identity under a pseudonym. -/
def idemix : Form (IdemixIdentity P) :=
  record (fun d => do return ⟨← commitment.get d "nym", ← (block 32).get d "public_key"⟩)
    fun i => [("nym", commitment.write i.pseudonym), ("public_key", (block 32).write i.publicKey)]

/-- Audit info. -/
def auditInfo : Form AuditInfo :=
  record
    (fun d => do
      return ⟨← text.get d "enrollment_id", ← bytes.get d "revocation_handle",
        ← scalar.get? d "nym_blinding"⟩)
    fun i => [("enrollment_id", text.write i.enrollmentId),
      ("revocation_handle", bytes.write i.revocationHandle),
      ("nym_blinding", scalar.option.write i.pseudonymBlinding)]

/-- A hash function by its name. -/
def hashFunction : Form HashFunction := choice [("Sha256", .sha256), ("Sha512", .sha512)]

/-- An encoding of images by its name. -/
def imageEncoding : Form ImageEncoding := choice [("None", .raw), ("Hex", .hex)]

/-- A hash lock. -/
def hashLock : Form HashLock :=
  record
    (fun d => do
      return ⟨← bytes.get d "hash", ← hashFunction.get d "hash_func",
        ← imageEncoding.get d "hash_encoding"⟩)
    fun l => [("hash", bytes.write l.hash), ("hash_func", hashFunction.write l.function),
      ("hash_encoding", imageEncoding.write l.encoding)]

/-- A script. -/
def script : Form Script :=
  record
    (fun d => do
      return ⟨← identity.get d "sender", ← identity.get d "recipient", ← u64.get d "deadline",
        ← hashLock.get d "hash_info"⟩)
    fun s => [("sender", identity.write s.sender), ("recipient", identity.write s.recipient),
      ("deadline", u64.write s.deadline), ("hash_info", hashLock.write s.lock)]

/-- The audit infos of a script's parties. -/
def scriptInfo : Form ScriptInfo :=
  record (fun d => do return ⟨← bytes.get d "sender", ← bytes.get d "recipient"⟩)
    fun i => [("sender", bytes.write i.sender), ("recipient", bytes.write i.recipient)]

/-! ## Tokens -/

/-- The id of a token. -/
def tokenId : Form TokenId :=
  record (fun d => do return ⟨← text.get d "tx_id", ← u64.get d "index"⟩)
    fun t => [("tx_id", text.write t.txId), ("index", u64.write t.index)]

/-- A token. -/
def token : Form (Token P) :=
  record (fun d => do return ⟨← identity.get d "owner", ← commitment.get d "data"⟩)
    fun t => [("owner", identity.write t.owner), ("data", commitment.write t.data)]

/-- An opening. -/
def opening : Form Opening :=
  record
    (fun d => do
      return ⟨← text.get d "token_type", ← u64.get d "value", ← scalar.get d "blinding_factor"⟩)
    fun o => [("token_type", text.write o.tokenType), ("value", u64.write o.value),
      ("blinding_factor", scalar.write o.blinding)]

/-- A disclosure: the fields of the opening, and the issuer. -/
def disclosure : Form Disclosure :=
  record (fun d => do return ⟨← opening.read d, ← identity.get? d "issuer"⟩)
    fun d => [("token_type", text.write d.opening.tokenType), ("value", u64.write d.opening.value),
      ("blinding_factor", scalar.write d.opening.blinding),
      ("issuer", identity.option.write d.issuer)]

/-- A token with what the auditor is told about it. -/
def auditableToken : Form (AuditableToken P) :=
  record
    (fun d => do
      return ⟨← token.get d "token", ← opening.get? d "opening", ← bytes.getD d "owner_info" []⟩)
    fun t => [("token", token.write t.token), ("opening", opening.option.write t.opening),
      ("owner_info", bytes.write t.ownerInfo)]

/-! ## Actions and requests -/

/-- The metadata of an action, by key. -/
def actionMetadata : Form (SortedMap String Bytes) := bytes.map

/-- An issue. -/
def issueAction : Form (IssueAction P) :=
  record
    (fun d => do
      return ⟨← identity.get d "issuer", ← token.list.get d "outputs", ← bytes.get d "proof",
        ← actionMetadata.get d "metadata"⟩)
    fun a => [("issuer", identity.write a.issuer), ("outputs", token.list.write a.outputs),
      ("proof", bytes.write a.proof), ("metadata", actionMetadata.write a.metadata)]

/-- An input of a transfer. -/
def actionInput : Form (ActionInput P) :=
  record (fun d => do return ⟨← tokenId.get d "id", ← token.get d "token"⟩)
    fun i => [("id", tokenId.write i.id), ("token", token.write i.token)]

/-- A transfer. -/
def transferAction : Form (TransferAction P) :=
  record
    (fun d => do
      return ⟨← actionInput.list.get d "inputs", ← token.list.get d "outputs", ← bytes.get d "proof",
        ← actionMetadata.get d "metadata", ← identity.list.get d "extra_signers"⟩)
    fun a => [("inputs", actionInput.list.write a.inputs), ("outputs", token.list.write a.outputs),
      ("proof", bytes.write a.proof), ("metadata", actionMetadata.write a.metadata),
      ("extra_signers", identity.list.write a.extraSigners)]

/-- The signature of an auditor. -/
def auditorSignature : Form AuditorSignature :=
  record (fun d => do return ⟨← identity.get d "identity", ← bytes.get d "signature"⟩)
    fun s => [("identity", identity.write s.identity), ("signature", bytes.write s.signature)]

/-- A request. -/
def tokenRequest : Form TokenRequest :=
  record
    (fun d => do
      return ⟨← bytes.list.get d "issues", ← bytes.list.get d "transfers",
        ← bytes.list.get d "signatures", ← auditorSignature.list.get d "auditor_signatures"⟩)
    fun r => [("issues", bytes.list.write r.issues), ("transfers", bytes.list.write r.transfers),
      ("signatures", bytes.list.write r.signatures),
      ("auditor_signatures", auditorSignature.list.write r.auditorSignatures)]

/-- Reads a recipient: an owner and a value, or a value to redeem. -/
def recipient : Form Recipient where
  read d := do
    match ← u64.get? d "redeem" with
    | some value => return .redeem value
    | none =>
      return ⟨← identity.get d "owner", ← u64.get d "value", ← bytes.getD d "audit_info" []⟩
  write r := .fields
    [("owner", identity.write r.owner), ("value", u64.write r.value),
      ("audit_info", bytes.write r.auditInfo)]

/-! ## Metadata -/

/-- The metadata of an issue. -/
def issueMetadata : Form IssueMetadata :=
  record
    (fun d => do
      return ⟨← identity.get d "issuer", ← tokenId.list.get d "token_ids",
        ← bytes.list.get d "outputs_metadata", ← identity.list.get d "receivers",
        ← bytes.list.get d "receivers_audit_infos", ← identity.list.get d "extra_signers"⟩)
    fun m => [("issuer", identity.write m.issuer), ("token_ids", tokenId.list.write m.tokenIds),
      ("outputs_metadata", bytes.list.write m.outputsMetadata),
      ("receivers", identity.list.write m.receivers),
      ("receivers_audit_infos", bytes.list.write m.receiverAuditInfos),
      ("extra_signers", identity.list.write m.extraSigners)]

/-- The metadata of a transfer. -/
def transferMetadata : Form TransferMetadata :=
  record
    (fun d => do
      return ⟨← tokenId.list.get d "token_ids", ← identity.list.get d "senders",
        ← bytes.list.get d "sender_audit_infos", ← bytes.list.get d "outputs_metadata",
        ← bytes.list.get d "outputs_audit_info", ← identity.list.get d "receivers",
        ← bytes.list.get d "receiver_audit_infos", ← identity.list.get d "extra_signers"⟩)
    fun m => [("token_ids", tokenId.list.write m.tokenIds),
      ("senders", identity.list.write m.senders),
      ("sender_audit_infos", bytes.list.write m.senderAuditInfos),
      ("outputs_metadata", bytes.list.write m.outputsMetadata),
      ("outputs_audit_info", bytes.list.write m.outputAuditInfos),
      ("receivers", identity.list.write m.receivers),
      ("receiver_audit_infos", bytes.list.write m.receiverAuditInfos),
      ("extra_signers", identity.list.write m.extraSigners)]

/-- The metadata of a request. -/
def requestMetadata : Form RequestMetadata :=
  record
    (fun d => do
      return ⟨← issueMetadata.list.get d "issues", ← transferMetadata.list.get d "transfers",
        ← bytes.map.get d "application"⟩)
    fun m => [("issues", issueMetadata.list.write m.issues),
      ("transfers", transferMetadata.list.write m.transfers),
      ("application", bytes.map.write m.application)]

/-! ## Parameters, errors and records -/

/-- Reads parameters: the default ones, their bytes, or a bit length with issuers and auditors. -/
def readParameters : Document → Outcome (PublicParameters P)
  | .text "default" => .ok .default
  | d => do
    match ← bytes.get? d "bytes" with
    | some encoded => PublicParameters.ofBytes encoded
    | none =>
      PublicParameters.ofBitLength (← u64.get d "bits") (← identity.list.getD d "issuers" [])
        (← identity.list.getD d "auditors" [])

/-- Parameters with what follows from them. -/
def parameters : Form (PublicParameters P) where
  read := readParameters
  write pp := .fields
    [("label", text.write pp.label), ("curve", text.write pp.curve.text),
      ("generators", generators.write pp.generators),
      ("bit_length", u64.write pp.range.bitLength),
      ("number_of_rounds", u64.write pp.range.rounds),
      ("issuers", identity.list.write pp.issuers), ("auditors", identity.list.write pp.auditors),
      ("identifier", text.write pp.identifier), ("max_value", u64.write pp.maxValue),
      ("debug", text.write pp.display)]

/-- The kind of an error by its name. -/
def errorKind : Form ErrorKind :=
  choice [("Malformed", .malformed), ("Verification", .verification), ("Setup", .setup)]

end Form

namespace Document

/-- An error: its kind and its whole text. -/
def ofError (e : Error) : Document :=
  fields [("error", Form.errorKind.write e.kind), ("message", text e.text)]

/-- A result: what it holds, or the error. -/
def result {α : Type} (write : α → Document) (outcome : Outcome α) : Document :=
  ofOutcome write ofError outcome

/-- A result that holds nothing. -/
def verdict (outcome : Outcome Unit) : Document := result (fun _ => null) outcome

/-- Records in order: target and message. -/
def ofLog (log : List LogRecord) : Document :=
  list (log.map fun r => list [text r.target, text r.message])

end Document

end ConfidentialToken
