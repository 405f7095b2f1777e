import ConfidentialToken.Action

/-!
# Metadata of requests

Beside a request travels metadata in the clear: the openings of outputs and the audit infos of all
parties. The auditor gets all of it and a recipient what is its own. This module holds the data and
what it takes to describe an action.
-/

namespace ConfidentialToken

/-- The metadata of an issue. -/
structure IssueMetadata where
  issuer : Identity
  tokenIds : List TokenId
  /-- The disclosures of the outputs as bytes; empty bytes for one that is held back. -/
  outputsMetadata : List Bytes
  receivers : List Identity
  receiverAuditInfos : List Bytes
  extraSigners : List Identity
deriving DecidableEq

/-- The metadata of a transfer. -/
structure TransferMetadata where
  tokenIds : List TokenId
  senders : List Identity
  senderAuditInfos : List Bytes
  /-- The disclosures of the outputs as bytes; empty bytes for one that is held back. -/
  outputsMetadata : List Bytes
  outputAuditInfos : List Bytes
  receivers : List Identity
  receiverAuditInfos : List Bytes
  extraSigners : List Identity
deriving DecidableEq

/-- The metadata of a request. -/
structure RequestMetadata where
  issues : List IssueMetadata
  transfers : List TransferMetadata
  /-- What applications add. -/
  application : SortedMap String Bytes
deriving DecidableEq

/-- The error of a position that a list does not have. -/
def outOfRange (index length : Nat) : Error :=
  .malformed s!"index [{index}] out of range [0:{length}]"

/-- Whether a slot is missing or held back. -/
def isSlotAbsent (slots : List Bytes) (index : Nat) : Bool := (slots.getD index []).isEmpty

/-- Checks that the signers that metadata names are those of the action. -/
def matchExtraSigners (expected actual : List Identity) : Outcome Unit := do
  if expected.length ≠ actual.length then
    throw <| .malformed s!"expected [{expected.length}] extra signers but got [{actual.length}]"
  match (expected.zip actual).find? fun (e, a) => e ≠ a with
  | some (e, a) => throw <| .malformed s!"expected extra signer {e.display} but got {a.display}"
  | none => return ()

namespace IssueMetadata

/-- The byte form: the fields in order. -/
def codec : Wire.Codec IssueMetadata :=
  let byteStrings := Wire.Codec.bytes.list
  let identities := Identity.codec.list
  (Identity.codec.pair (TokenId.codec.list.pair (byteStrings.pair (identities.pair
    (byteStrings.pair identities))))).via
    (fun (i, t, o, r, a, e) => ⟨i, t, o, r, a, e⟩)
    (fun m => (m.issuer, m.tokenIds, m.outputsMetadata, m.receivers, m.receiverAuditInfos,
      m.extraSigners))

/-- The metadata in record notation: its shape alone. -/
def display (m : IssueMetadata) : String :=
  Text.record "IssueMetadata"
    [("issuer", m.issuer.display), ("outputs", toString m.outputsMetadata.length)]

/-- Whether the disclosure of an output is missing or held back. -/
def isOutputAbsent (m : IssueMetadata) (index : Nat) : Bool := isSlotAbsent m.outputsMetadata index

/-- Checks that the metadata describes an issue. -/
def matchAction {P : Type} [PointGroup P] (m : IssueMetadata) (action : IssueAction P) :
    Outcome Unit := do
  action.check.inContext "failed validating issue action"
  if m.tokenIds ≠ [] then
    throw <| .malformed s!"expected [0] inputs but got [{m.tokenIds.length}]"
  if m.outputsMetadata.length ≠ action.outputs.length then
    throw <| .malformed
      s!"expected [{m.outputsMetadata.length}] outputs but got [{action.outputs.length}]"
  if m.receivers.length ≠ m.receiverAuditInfos.length then
    throw <| .malformed <| s!"expected [{m.receivers.length}] receiver audit infos but got " ++
      s!"[{m.receiverAuditInfos.length}]"
  matchExtraSigners m.extraSigners []

end IssueMetadata

namespace TransferMetadata

/-- The byte form: the fields in order. -/
def codec : Wire.Codec TransferMetadata :=
  let byteStrings := Wire.Codec.bytes.list
  let identities := Identity.codec.list
  (TokenId.codec.list.pair (identities.pair (byteStrings.pair (byteStrings.pair (byteStrings.pair
    (identities.pair (byteStrings.pair identities))))))).via
    (fun (t, s, sa, o, oa, r, ra, e) => ⟨t, s, sa, o, oa, r, ra, e⟩)
    (fun m => (m.tokenIds, m.senders, m.senderAuditInfos, m.outputsMetadata, m.outputAuditInfos,
      m.receivers, m.receiverAuditInfos, m.extraSigners))

/-- The metadata in record notation: its shape alone. -/
def display (m : TransferMetadata) : String :=
  Text.record "TransferMetadata"
    [("token_ids", Text.list (m.tokenIds.map TokenId.display)),
      ("senders", toString m.senders.length), ("outputs", toString m.outputsMetadata.length)]

/-- Whether the disclosure of an output is missing or held back. -/
def isOutputAbsent (m : TransferMetadata) (index : Nat) : Bool :=
  isSlotAbsent m.outputsMetadata index

/-- Whether the sender of an input is missing or held back. -/
def isInputAbsent (m : TransferMetadata) (index : Nat) : Bool :=
  (m.senders.getD index Identity.none).isNone

/-- Checks that the metadata describes a transfer. -/
def matchAction {P : Type} [PointGroup P] (m : TransferMetadata) (action : TransferAction P) :
    Outcome Unit := do
  action.check.inContext "failed validating transfer action"
  if m.tokenIds ≠ [] ∧ m.senders.length ≠ m.tokenIds.length then
    throw <| .malformed <| s!"expected [{m.tokenIds.length}] token IDs and senders but got " ++
      s!"[{m.senders.length}]"
  if m.senders.length ≠ m.senderAuditInfos.length then
    throw <| .malformed <| s!"expected [{m.senders.length}] senders and sender audit infos but got " ++
      s!"[{m.senderAuditInfos.length}]"
  if m.outputsMetadata.length ≠ action.outputs.length then
    throw <| .malformed
      s!"expected [{m.outputsMetadata.length}] outputs but got [{action.outputs.length}]"
  if m.outputAuditInfos.length ≠ action.outputs.length then
    throw <| .malformed <| s!"expected [{action.outputs.length}] output audit info but got " ++
      s!"[{m.outputAuditInfos.length}]"
  if m.receivers.length ≠ m.receiverAuditInfos.length then
    throw <| .malformed <| s!"expected [{m.receivers.length}] receiver audit infos but got " ++
      s!"[{m.receiverAuditInfos.length}]"
  matchExtraSigners m.extraSigners action.extraSigners

end TransferMetadata

namespace RequestMetadata

/-- The byte form: the fields in order. -/
def codec : Wire.Codec RequestMetadata :=
  (IssueMetadata.codec.list.pair (TransferMetadata.codec.list.pair Wire.Codec.map)).via
    (fun (i, t, a) => ⟨i, t, a⟩) (fun m => (m.issues, m.transfers, m.application))

/-- The bytes of metadata, however many. -/
def toBytes (m : RequestMetadata) : Bytes := codec.encode m

/-- Writes metadata. -/
def serialize (m : RequestMetadata) : Outcome Bytes := codec.write m

/-- Reads metadata. -/
def ofBytes (bytes : Bytes) : Outcome RequestMetadata :=
  (codec.read bytes).inContext "cannot decode token request metadata"

/-- The metadata in record notation. -/
def display (m : RequestMetadata) : String :=
  let bytes (value : Bytes) := Text.list (value.map fun b => toString b.toNat)
  Text.record "TokenRequestMetadata"
    [("issues", Text.list (m.issues.map IssueMetadata.display)),
      ("transfers", Text.list (m.transfers.map TransferMetadata.display)),
      ("application",
        Text.map (m.application.entries.map fun (key, value) => (Text.quote key, bytes value)))]

/-- The ids of all tokens that the transfers spend. -/
def spentTokenIds (m : RequestMetadata) : List TokenId :=
  m.transfers.flatMap TransferMetadata.tokenIds

/-- The metadata of the issue at a position. -/
def issueAt (m : RequestMetadata) (index : Nat) : Outcome IssueMetadata :=
  match m.issues[index]? with
  | some issue => .ok issue
  | none => .error (outOfRange index m.issues.length)

/-- The metadata of the transfer at a position. -/
def transferAt (m : RequestMetadata) (index : Nat) : Outcome TransferMetadata :=
  match m.transfers[index]? with
  | some transfer => .ok transfer
  | none => .error (outOfRange index m.transfers.length)

end RequestMetadata

end ConfidentialToken
