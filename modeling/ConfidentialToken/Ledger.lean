import ConfidentialToken.Action
import ConfidentialToken.Log

/-!
# The ledger

The ledger holds unspent tokens as bytes, the history of what was applied, and a time. Applying the
actions of a request is a task on the ledger: it looks for a reason to refuse them, and then it changes
the ledger in steps. Outputs are numbered through the whole request, issues first; a redeemed output
takes a number but is not stored. A token whose bytes are over the size limit of the wire cannot be
stored.
-/

namespace ConfidentialToken

/-- What applying one request did. -/
structure LedgerEvent where
  anchor : String
  created : List TokenId
  spent : List TokenId
deriving DecidableEq

/-- Unspent tokens, history and time. -/
structure Ledger where
  tokens : SortedMap TokenId Bytes
  history : List LedgerEvent
  /-- In seconds since the epoch. -/
  time : UInt64
deriving DecidableEq

namespace Ledger

/-- The ledger without tokens and history. -/
def empty (time : UInt64) : Ledger := ⟨.empty, [], time⟩

/-- The ledger at another time. -/
def setTime (ledger : Ledger) (time : UInt64) : Ledger := { ledger with time }

/-- The bytes of an unspent token. -/
def state? (ledger : Ledger) (id : TokenId) : Option Bytes := ledger.tokens.get? id

/-- The ids of the unspent tokens in order. -/
def unspent (ledger : Ledger) : List TokenId := ledger.tokens.keys

section

variable {P : Type} [PointGroup P]

/-- An unspent token, if its bytes can be read. -/
def token? (ledger : Ledger) (id : TokenId) : Option (Token P) := do
  (Token.ofBytes (← ledger.state? id)).toOption

/-- The outputs of actions in the order in which they are numbered. -/
def outputsOf (issues : List (IssueAction P)) (transfers : List (TransferAction P)) :
    List (Token P) :=
  issues.flatMap IssueAction.outputs ++ transfers.flatMap TransferAction.outputs

/-- The tokens that outputs store under an anchor: each with its number, the redeemed left out. -/
def created (anchor : String) (outputs : List (Token P)) : List (TokenId × Bytes) :=
  ((withPositions outputs).filter fun (_, token) => !token.isRedeemed).map fun (index, token) =>
    (⟨anchor, UInt64.ofNat index⟩, token.toBytes)

/-- Checks that the bytes of the tokens to be stored are within the size limit. -/
def checkSizes (created : List (TokenId × Bytes)) : Outcome Unit :=
  created.forM fun (_, bytes) =>
    Outcome.require (bytes.length ≤ Wire.sizeLimit) (.ofWire .sizeLimit)

/-- Takes out the tokens under ids. -/
def spend (ledger : Ledger) (spent : List TokenId) : Ledger :=
  { ledger with tokens := spent.foldl SortedMap.erase ledger.tokens }

/-- Puts in tokens under their ids. -/
def store (ledger : Ledger) (created : List (TokenId × Bytes)) : Ledger :=
  { ledger with
    tokens := created.foldl (fun tokens (id, bytes) => tokens.insert id bytes) ledger.tokens }

/-- Adds an event to the history. -/
def record (ledger : Ledger) (event : LedgerEvent) : Ledger :=
  { ledger with history := ledger.history ++ [event] }

/-- Applies the actions of a request under an anchor. Gives the ids of the stored outputs. -/
def apply (anchor : String) (issues : List (IssueAction P)) (transfers : List (TransferAction P)) :
    Task Ledger (List TokenId) := do
  let ledger ← get
  if ledger.history.any (·.anchor = anchor) then
    throw <| .malformed s!"request [{anchor}] is already applied"
  let spent := transfers.flatMap TransferAction.inputIds
  match spent.find? (!ledger.tokens.contains ·) with
  | some id => throw <| .malformed s!"input {id.text} does not exist"
  | none => pure ()
  match firstRepeated? [] spent with
  | some id => throw <| .malformed s!"input {id.text} is spent twice"
  | none => pure ()
  let created := created anchor (outputsOf issues transfers)
  checkSizes created
  modify (·.spend spent)
  modify (·.store created)
  let made := created.map (·.1)
  modify (·.record ⟨anchor, made, spent⟩)
  return made

end

end Ledger

end ConfidentialToken
