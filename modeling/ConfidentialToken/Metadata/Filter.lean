import ConfidentialToken.Identity.Enrollment
import ConfidentialToken.Log
import ConfidentialToken.Metadata

/-!
# Filtering metadata

A recipient gets the metadata of a request cut down to the outputs whose receivers have one of its
enrollment ids. Every output keeps its slot; what belongs to others becomes empty bytes. The senders
of a transfer are told only to those who receive some of it, and the ids of spent tokens to nobody.
-/

namespace ConfidentialToken

namespace Metadata

/-- The logger of filtering. -/
def logger (parent : Logger) : Logger := parent.named "metadata"

/-- Metadata as its holder shows it. -/
def display (m : RequestMetadata) : String :=
  Text.record "Metadata" [("token_request_metadata", m.display)]

/-- The bytes in a slot that must be there. -/
def slot (slots : List Bytes) (index : Nat) (what : String) : Outcome Bytes :=
  match slots[index]? with
  | some bytes => .ok bytes
  | none => .error <| .malformed s!"{what} [{index}] is missing"

/-- The receiver in a slot and the enrollment id that its audit info tells. -/
def receiverAt (lookup : EnrollmentLookup) (what : String) (receivers : List Identity) (index : Nat)
    (auditInfo : Bytes) : Outcome (Identity × String) := do
  let receiver ← match receivers[index]? with
    | some receiver => pure receiver
    | none => throw <| .malformed s!"{what} receiver [{index}] is missing"
  let id ← (lookup receiver auditInfo).inContext "failed getting enrollment ID"
  return (receiver, id)

/-- What one output slot of a transfer becomes. -/
structure Slot where
  receiver : Identity
  /-- Whether the slot's receiver has one of the wanted enrollment ids. -/
  kept : Bool
  outputMetadata : Bytes
  outputAuditInfo : Bytes
  receiverAuditInfo : Bytes

/-- The slot of a receiver to whom nothing is told. -/
def Slot.blank (receiver : Identity) : Slot := ⟨receiver, false, [], [], []⟩

/-- Filters one slot of an issue. -/
def filterIssueSlot (lookup : EnrollmentLookup) (log : Logger) (ids : List String)
    (issue : IssueMetadata) (index : Nat) (auditInfo : Bytes) : Logged Slot := do
  let (receiver, id) ← receiverAt lookup "issue" issue.receivers index auditInfo
  if id ∈ ids then
    let metadata ← slot issue.outputsMetadata index "output metadata"
    return ⟨receiver, true, metadata, [], auditInfo⟩
  else
    log.debug s!"skipping issue for [{id}]"
    return .blank receiver

/-- Filters the metadata of an issue. -/
def filterIssue (lookup : EnrollmentLookup) (log : Logger) (ids : List String)
    (issue : IssueMetadata) : Logged IssueMetadata := do
  let slots ← (withPositions issue.receiverAuditInfos).mapM fun (i, auditInfo) =>
    filterIssueSlot lookup log ids issue i auditInfo
  return { issue with
    outputsMetadata := slots.map Slot.outputMetadata
    receivers := slots.map Slot.receiver
    receiverAuditInfos := slots.map Slot.receiverAuditInfo }

/-- Filters one slot of a transfer. -/
def filterTransferSlot (lookup : EnrollmentLookup) (log : Logger) (ids : List String)
    (transfer : TransferMetadata) (index : Nat) (auditInfo : Bytes) : Logged Slot := do
  let (receiver, id) ← receiverAt lookup "transfer" transfer.receivers index auditInfo
  if id ∈ ids then
    log.debug s!"keeping transfer for [{id}]"
    let metadata ← slot transfer.outputsMetadata index "output metadata"
    let outputAuditInfo ← slot transfer.outputAuditInfos index "output audit info"
    return ⟨receiver, true, metadata, outputAuditInfo, auditInfo⟩
  else
    log.debug s!"skipping transfer for [{id}]"
    return .blank receiver

/-- The audit infos of all senders of a transfer. -/
def senderAuditInfos (transfer : TransferMetadata) : Outcome (List Bytes) :=
  (List.range transfer.senders.length).mapM fun i =>
    slot transfer.senderAuditInfos i "sender audit info"

/-- Filters the metadata of a transfer. -/
def filterTransfer (lookup : EnrollmentLookup) (log : Logger) (ids : List String)
    (transfer : TransferMetadata) : Logged TransferMetadata := do
  let slots ← (withPositions transfer.receiverAuditInfos).mapM fun (i, auditInfo) =>
    filterTransferSlot lookup log ids transfer i auditInfo
  let told := slots.any Slot.kept
  let infos ← if told then senderAuditInfos transfer else pure []
  let kept := (slots.filter fun s => !s.outputMetadata.isEmpty).length
  log.debug s!"keeping transfer with [{kept}] out of [{transfer.outputsMetadata.length}] outputs"
  return {
    tokenIds := []
    senders := if told then transfer.senders else []
    senderAuditInfos := infos
    outputsMetadata := slots.map Slot.outputMetadata
    outputAuditInfos := slots.map Slot.outputAuditInfo
    receivers := slots.map Slot.receiver
    receiverAuditInfos := slots.map Slot.receiverAuditInfo
    extraSigners := transfer.extraSigners }

/-- Filters the metadata of a request down to the outputs of some enrollment ids. -/
def filterBy (lookup : EnrollmentLookup) (log : Logger) (ids : List String)
    (source : RequestMetadata) : Logged RequestMetadata := do
  let issues ← source.issues.mapM (filterIssue lookup log ids)
  let transfers ← source.transfers.mapM (filterTransfer lookup log ids)
  log.debug <| s!"filtered metadata for {ids.length} enrollment IDs from " ++
    s!"[{source.issues.length}:{source.transfers.length}] to [{issues.length}:{transfers.length}]"
  return ⟨issues, transfers, source.application⟩

end Metadata

end ConfidentialToken
