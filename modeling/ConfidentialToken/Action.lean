import ConfidentialToken.Script
import ConfidentialToken.Token

/-!
# Actions

An issue makes tokens in the name of an issuer; a transfer spends tokens and makes others of the same
type and total value. Both carry a proof as bytes and metadata that anybody may read.
-/

namespace ConfidentialToken

/-- The most outputs, and the most inputs, of one action. -/
def maxOutputs : Nat := 256

/-- The first entry of a list that occurs before it, in the list or among those already seen. -/
def firstRepeated? {α : Type} [DecidableEq α] (seen : List α) : List α → Option α
  | [] => none
  | x :: rest => if x ∈ seen then some x else firstRepeated? (x :: seen) rest

/-- Pairs owners with commitments, which must be equally many. -/
def outputsOf {P : Type} (commitments : List (Commitment P)) (owners : List Identity) :
    Outcome (List (Token P)) :=
  if commitments.length = owners.length then
    .ok (List.zipWith Token.mk owners commitments)
  else .error <| .malformed <| "number of owners does not match number of tokens " ++
    s!"[{owners.length}]!=[{commitments.length}]"

/-- Checks that there are outputs, and not too many. -/
def checkOutputs {P : Type} (outputs : List (Token P)) : Outcome Unit := do
  if outputs.isEmpty then throw <| .malformed "there are no outputs"
  if maxOutputs < outputs.length then
    throw <| .malformed s!"too many outputs: {outputs.length} > {maxOutputs}"

/-- An action that makes tokens. -/
structure IssueAction (P : Type) where
  issuer : Identity
  outputs : List (Token P)
  proof : Bytes
  metadata : SortedMap String Bytes

namespace IssueAction

variable {P : Type} [PointGroup P]

instance : DecidableEq (IssueAction P) := fun a b =>
  if h : a.issuer = b.issuer ∧ a.outputs = b.outputs ∧ a.proof = b.proof ∧ a.metadata = b.metadata then
    isTrue (by cases a; cases b; obtain ⟨rfl, rfl, rfl, rfl⟩ := h; rfl)
  else isFalse fun e => h (e ▸ ⟨rfl, rfl, rfl, rfl⟩)

/-- An issue of commitments to owners. -/
def ofParts (issuer : Identity) (commitments : List (Commitment P)) (owners : List Identity)
    (proof : Bytes) : Outcome (IssueAction P) := do
  return ⟨issuer, ← outputsOf commitments owners, proof, .empty⟩

/-- The byte form: the fields in order. -/
def codec : Wire.Codec (IssueAction P) :=
  (Identity.codec.pair (Token.codec.list.pair (Wire.Codec.bytes.pair Wire.Codec.map))).via
    (fun (i, o, p, m) => ⟨i, o, p, m⟩) (fun a => (a.issuer, a.outputs, a.proof, a.metadata))

/-- The bytes of an issue, however many. -/
def toBytes (action : IssueAction P) : Bytes := codec.encode action

/-- Writes an issue. -/
def serialize (action : IssueAction P) : Outcome Bytes := codec.write action

/-- Reads an issue. -/
def ofBytes (bytes : Bytes) : Outcome (IssueAction P) :=
  (codec.read bytes).inContext "cannot deserialize issue action"

/-- The commitments of the outputs. -/
def commitments (action : IssueAction P) : List (Commitment P) := action.outputs.map Token.data

/-- Puts a value under a metadata key. -/
def setMetadata (action : IssueAction P) (key : String) (value : Bytes) : IssueAction P :=
  { action with metadata := action.metadata.insert key value }

/-- Checks that an issue is well formed: an issuer, and outputs with owners. -/
def check (action : IssueAction P) : Outcome Unit := do
  if action.issuer.isNone then throw <| .malformed "issuer is not set"
  checkOutputs action.outputs
  match action.outputs.findIdx? Token.isRedeemed with
  | some i => throw <| .malformed s!"issue cannot redeem tokens: output [{i}] has no owner"
  | none => return ()

end IssueAction

/-- An input of a transfer: where the spent token lies, and the token. -/
structure ActionInput (P : Type) where
  id : TokenId
  token : Token P

namespace ActionInput

variable {P : Type} [PointGroup P]

instance : DecidableEq (ActionInput P) := fun a b =>
  if h : a.id = b.id ∧ a.token = b.token then
    isTrue (by cases a; cases b; obtain ⟨rfl, rfl⟩ := h; rfl)
  else isFalse fun e => h (e ▸ ⟨rfl, rfl⟩)

/-- The byte form: id and token. -/
def codec : Wire.Codec (ActionInput P) :=
  (TokenId.codec.pair Token.codec).via (fun (i, t) => ⟨i, t⟩) (fun a => (a.id, a.token))

end ActionInput

/-- An action that spends tokens and makes others. -/
structure TransferAction (P : Type) where
  inputs : List (ActionInput P)
  outputs : List (Token P)
  proof : Bytes
  metadata : SortedMap String Bytes
  extraSigners : List Identity

namespace TransferAction

variable {P : Type} [PointGroup P]

instance : DecidableEq (TransferAction P) := fun a b =>
  if h : a.inputs = b.inputs ∧ a.outputs = b.outputs ∧ a.proof = b.proof ∧ a.metadata = b.metadata ∧
      a.extraSigners = b.extraSigners then
    isTrue (by cases a; cases b; obtain ⟨rfl, rfl, rfl, rfl, rfl⟩ := h; rfl)
  else isFalse fun e => h (e ▸ ⟨rfl, rfl, rfl, rfl, rfl⟩)

/-- A transfer of tokens to commitments and owners. -/
def ofParts (ids : List TokenId) (tokens : List (Token P)) (commitments : List (Commitment P))
    (owners : List Identity) (proof : Bytes) : Outcome (TransferAction P) := do
  if ids.length ≠ tokens.length then
    throw <| .malformed <| "number of input ids does not match number of input tokens " ++
      s!"[{ids.length}]!=[{tokens.length}]"
  return ⟨List.zipWith ActionInput.mk ids tokens, ← outputsOf commitments owners, proof, .empty, []⟩

/-- The byte form: the fields in order. -/
def codec : Wire.Codec (TransferAction P) :=
  (ActionInput.codec.list.pair (Token.codec.list.pair (Wire.Codec.bytes.pair
    (Wire.Codec.map.pair Identity.codec.list)))).via
    (fun (i, o, p, m, e) => ⟨i, o, p, m, e⟩)
    (fun a => (a.inputs, a.outputs, a.proof, a.metadata, a.extraSigners))

/-- The bytes of a transfer, however many. -/
def toBytes (action : TransferAction P) : Bytes := codec.encode action

/-- Writes a transfer. -/
def serialize (action : TransferAction P) : Outcome Bytes := codec.write action

/-- Reads a transfer. -/
def ofBytes (bytes : Bytes) : Outcome (TransferAction P) :=
  (codec.read bytes).inContext "cannot deserialize transfer action"

/-- The ids of the inputs. -/
def inputIds (action : TransferAction P) : List TokenId := action.inputs.map ActionInput.id

/-- The commitments of the inputs. -/
def inputCommitments (action : TransferAction P) : List (Commitment P) :=
  action.inputs.map (·.token.data)

/-- The commitments of the outputs. -/
def commitments (action : TransferAction P) : List (Commitment P) := action.outputs.map Token.data

/-- Whether some output is redeemed. -/
def redeems (action : TransferAction P) : Bool := action.outputs.any Token.isRedeemed

/-- Puts a value under a metadata key. -/
def setMetadata (action : TransferAction P) (key : String) (value : Bytes) : TransferAction P :=
  { action with metadata := action.metadata.insert key value }

/-- Adds someone who must sign besides the owners of the inputs. -/
def addExtraSigner (action : TransferAction P) (signer : Identity) : TransferAction P :=
  { action with extraSigners := action.extraSigners ++ [signer] }

/-- Checks inputs one by one: none may occur among those before it or have no owner. -/
def checkInputs (seen : List TokenId) : List (ActionInput P) → Outcome Unit
  | [] => .ok ()
  | input :: rest =>
    if input.id ∈ seen then .error <| .malformed s!"input {input.id.text} is spent twice"
    else if input.token.isRedeemed then
      .error <| .malformed s!"input {input.id.text} has no owner"
    else checkInputs (input.id :: seen) rest

/-- Checks that a transfer is well formed. -/
def check (action : TransferAction P) : Outcome Unit := do
  if action.inputs.isEmpty then throw <| .malformed "there are no inputs"
  if maxOutputs < action.inputs.length then
    throw <| .malformed s!"too many inputs: {action.inputs.length} > {maxOutputs}"
  checkOutputs action.outputs
  checkInputs [] action.inputs
  if action.extraSigners.any Identity.isNone then throw <| .malformed "extra signer is not set"

end TransferAction

namespace HashLock

/-- The first value under the lock's claim key, among the metadata of transfers, that opens it. -/
def findPreImage {P : Type} (transfers : List (TransferAction P)) (lock : HashLock) : Option Bytes :=
  (transfers.filterMap fun t => t.metadata.get? (claimKey lock.hash)).find? lock.isPreImage

end HashLock

end ConfidentialToken
