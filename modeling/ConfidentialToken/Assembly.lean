import ConfidentialToken.Metadata
import ConfidentialToken.Parameters
import ConfidentialToken.ZeroKnowledge.Issue
import ConfidentialToken.ZeroKnowledge.Transfer

/-!
# Making actions

An issuer makes tokens of a type for recipients; a sender spends tokens whose openings it knows. Both
get the action for the request and the metadata that goes to the auditor and, filtered, to the
recipients. Blinding factors and the randomness of proofs come from one tape of draws.
-/

namespace ConfidentialToken

/-- The owner and the value of an output to be made. -/
structure Recipient where
  owner : Identity
  value : UInt64
  auditInfo : Bytes
deriving DecidableEq

namespace Recipient

/-- An output without an owner, which takes its value out of circulation. -/
def redeem (value : UInt64) : Recipient := ⟨.none, value, []⟩

/-- An output that a script locks, audited through the audit infos of both parties. -/
def ofScript (script : Script) (value : UInt64) (info : ScriptInfo) : Recipient :=
  ⟨script.toIdentity, value, info.toBytes⟩

/-- The recipient in record notation: its owner alone. -/
def display (recipient : Recipient) : String :=
  Text.record "Recipient" [("owner", recipient.owner.display)]

/-- The sum of the values of outputs. -/
def total : List Recipient → Nat
  | [] => 0
  | recipient :: rest => recipient.value.toNat + total rest

/-- The openings of outputs to recipients, with one draw for each. -/
def openings (tokenType : String) (recipients : List Recipient) (draws : Draws) : List Opening :=
  List.zipWith (fun recipient blinding => ⟨tokenType, recipient.value, blinding⟩) recipients
    (draws.take recipients.length)

/-- Checks that there are recipients, not too many, and that their values are in range. -/
def check {P : Type} (pp : PublicParameters P) (recipients : List Recipient) : Outcome Unit := do
  if recipients.isEmpty then throw <| .malformed "no recipients specified"
  if maxOutputs < recipients.length then
    throw <| .malformed s!"too many recipients: {recipients.length} > {maxOutputs}"
  match recipients.findIdx? fun recipient => pp.maxValue < recipient.value with
  | some i => throw <| .malformed s!"value of output [{i}] exceeds the maximum {pp.maxValue}"
  | none => return ()

end Recipient

/-- A token that a sender holds, with its opening and the audit info of its owner. -/
structure OwnedToken (P : Type) where
  id : TokenId
  token : Token P
  opening : Opening
  auditInfo : Bytes

/-- Discloses openings, one by one. A disclosure that is over the size limit is not written. -/
def Disclosure.writeAll (openings : List Opening) (issuer : Option Identity) :
    Outcome (List Bytes) :=
  openings.mapM fun opening => codec.write ⟨opening, issuer⟩

variable {P : Type} [Suite P]

/-- Makes an issue of tokens of a type, in the name of an issuer. -/
def IssueAction.assemble (pp : PublicParameters P) (issuer : Identity) (tokenType : String)
    (recipients : List Recipient) (draws : Draws) : Outcome (IssueAction P × IssueMetadata) := do
  if tokenType = "" then throw <| .malformed "token type is empty"
  if recipients.any (·.owner.isNone) then throw <| .malformed "issue cannot redeem tokens"
  Recipient.check pp recipients
  let openings := Recipient.openings tokenType recipients draws
  let commitments := openings.map (·.commitment pp.generators)
  let proof ← (IssueProof.prove pp openings commitments (draws.skip recipients.length)).inContext
    "failed to generate issue proof"
  let owners := recipients.map (·.owner)
  let action ← IssueAction.ofParts issuer commitments owners proof
  let outputsMetadata ← Disclosure.writeAll openings (some issuer)
  return (action, {
    issuer
    tokenIds := []
    outputsMetadata
    receivers := owners
    receiverAuditInfos := recipients.map (·.auditInfo)
    extraSigners := [] })

namespace OwnedToken

/-- Checks that tokens at the places from `index` on have a type and open as their holder says. -/
def checkFrom (g : Generators P) (tokenType : String) :
    (index : Nat) → List (OwnedToken P) → Outcome Unit
  | _, [] => .ok ()
  | index, owned :: rest =>
    if owned.opening.tokenType ≠ tokenType then
      .error <| .malformed
        s!"input [{index}] has type [{owned.opening.tokenType}], expected [{tokenType}]"
    else if !owned.opening.opens owned.token.data g then
      .error <| .malformed s!"metadata of input [{index}] does not open the token"
    else checkFrom g tokenType (index + 1) rest

end OwnedToken

/-- Makes a transfer of tokens to recipients. The inputs must have one type, and their values must add
up to those of the outputs. -/
def TransferAction.assemble (pp : PublicParameters P) (inputs : List (OwnedToken P))
    (recipients : List Recipient) (draws : Draws) :
    Outcome (TransferAction P × TransferMetadata) := do
  match inputs with
  | [] => throw <| .malformed "no inputs specified"
  | first :: _ =>
    let tokenType := first.opening.tokenType
    OwnedToken.checkFrom pp.generators tokenType 0 inputs
    let spent := Opening.total (inputs.map (·.opening))
    let made := Recipient.total recipients
    if spent ≠ made then
      throw <| .malformed s!"input and output values do not balance: {spent} != {made}"
    Recipient.check pp recipients
    let openings := Recipient.openings tokenType recipients draws
    let commitments := openings.map (·.commitment pp.generators)
    let proof ← Outcome.inContext "failed to generate transfer proof" <|
      TransferProof.prove pp (inputs.map (·.opening)) (inputs.map (·.token.data)) openings
        commitments (draws.skip recipients.length)
    let owners := recipients.map (·.owner)
    let auditInfos := recipients.map (·.auditInfo)
    let action ← TransferAction.ofParts (inputs.map (·.id)) (inputs.map (·.token)) commitments
      owners proof
    let outputsMetadata ← Disclosure.writeAll openings none
    return (action, {
      tokenIds := inputs.map (·.id)
      senders := inputs.map (·.token.owner)
      senderAuditInfos := inputs.map (·.auditInfo)
      outputsMetadata
      outputAuditInfos := auditInfos
      receivers := owners
      receiverAuditInfos := auditInfos
      extraSigners := [] })

end ConfidentialToken
