import ConfidentialToken.Proofs.Suite.Requests
import ConfidentialToken.Proofs.Validation.Signatures
import Mathlib.Data.Set.Function

/-!
# Ownership

Tokens leave a ledger in one way only: a request spends them, and it carries a signature of the party
that may spend the token as the ledger holds it. The rules look at the owner that the request names;
that this is the owner on the ledger follows from the bytes of tokens having one reading.
-/

namespace ConfidentialToken

/-- Between two ledgers a token goes away. -/
def Ledger.Loses (before after : Ledger) (id : TokenId) : Prop :=
  before.state? id ≠ none ∧ after.state? id = none

/-- Who may spend what an identity owns at a time: a plain owner itself, and for a script the party
that it is open to. -/
inductive Identity.MaySpend (owner : Identity) (now : UInt64) : Identity → Prop where
  | plain : Script.isScript owner = false → owner.MaySpend now owner
  | script {script : Script} : Script.isScript owner = true → Script.ofIdentity owner = .ok script →
    owner.MaySpend now (script.spender now)

variable {P : Type} [Suite P]

/-- The party entitled to an input of an accepted request may spend what its owner owns. -/
theorem TransferAction.Valid.maySpend {pp : PublicParameters P} {ledger : Ledger}
    {transfer : TransferAction P} (valid : transfer.Valid pp ledger) {input : ActionInput P}
    (mem : input ∈ transfer.inputs) :
    input.token.owner.MaySpend ledger.time (input.token.owner.entitledAt ledger.time) := by
  cases isScript : Script.isScript input.token.owner with
  | false =>
    rw [Identity.entitledAt_plain isScript]
    exact .plain isScript
  | true =>
    obtain ⟨script, read, -⟩ := valid.released input mem isScript
    rw [Identity.entitledAt_script isScript read]
    exact .script isScript read

/-- An event takes no token away, or it is a submission that goes through and spends those it takes. -/
theorem Run.step_loses (run : Run P) (event : Event P) :
    (∀ id, ¬run.ledger.Loses (run.step event).ledger id) ∨
    ∃ (applied : Applied P) (logger : Logger) (message : Bytes),
      event = .submit applied.parameters logger applied.anchor applied.request ∧
      applied.GoesThrough run.ledger message ∧
      ∀ id, run.ledger.Loses (run.step event).ledger id → id ∈ applied.actions.spent := by
  rcases run.step_cases event with
    ⟨time, step⟩ | step | ⟨applied, logger, message, submitted, through, step⟩
  · rw [step]
    exact .inl fun _ ⟨there, gone⟩ => there gone
  · rw [step]
    exact .inl fun _ ⟨there, gone⟩ => there gone
  · rw [step]
    exact .inr ⟨applied, logger, message, submitted, through, fun _ ⟨there, gone⟩ =>
      Ledger.mem_spent_of_update there gone⟩

/-- Ownership is safe over whole runs. Whatever token an event takes away was an input of the submitted
request, which carries, in a place of its own, a signature that verifies for a party that may spend the
token as it was stored. -/
theorem Run.spent_only_when_signed [PointGroup.LawfulEncoding P] (time : UInt64)
    (events : List (Event P)) (event : Event P) :
    ∃ place : TokenId → Nat,
      Set.InjOn place
        {id | (after time events).ledger.Loses ((after time events).step event).ledger id} ∧
      ∀ (id : TokenId) (stored : Bytes), (after time events).ledger.state? id = some stored →
        ((after time events).step event).ledger.state? id = none →
        ∃ (pp : PublicParameters P) (logger : Logger) (anchor : String) (request : TokenRequest)
          (issues : List (IssueAction P)) (transfers : List (TransferAction P)) (message : Bytes)
          (token : Token P) (signer : Identity) (signature : Bytes),
          event = .submit pp logger anchor request ∧
          request.readActions P = .ok (issues, transfers) ∧
          (∃ transfer ∈ transfers, id ∈ transfer.inputIds) ∧
          request.messageToSign anchor = .ok message ∧
          Token.ofBytes stored = .ok token ∧
          token.owner.MaySpend (after time events).ledger.time signer ∧
          request.signatures[place id]? = some signature ∧
          signer.verify P message signature = .ok () := by
  generalize after time events = run
  rcases run.step_loses event with none | ⟨applied, logger, message, submitted, through, spends⟩
  · refine ⟨fun _ => 0, fun id loses => absurd loses (none id), fun id stored there gone => ?_⟩
    exact absurd ⟨there ▸ nofun, gone⟩ (none id)
  · refine ⟨applied.actions.place, fun id loses other _ same =>
      ValidatedActions.place_inj (spends id loses) same, fun id stored there gone => ?_⟩
    have acceptable := through.acceptable
    obtain ⟨transfer, htransfer, mem⟩ := List.mem_flatMap.mp (spends id ⟨there ▸ nofun, gone⟩)
    obtain ⟨input, hinput, rfl⟩ := List.mem_map.mp mem
    have valid := acceptable.transfers transfer htransfer
    -- the bytes on the ledger are those of the input's token, so they read as that token
    obtain rfl : stored = input.token.toBytes :=
      Option.some.inj (there.symm.trans (valid.stored input hinput))
    have readBack := Token.ofBytes_toBytes (acceptable.inputs_fit transfer htransfer input hinput)
    obtain ⟨signature, placed, verified⟩ := acceptable.signed_at_place htransfer hinput
    exact ⟨applied.parameters, logger, applied.anchor, applied.request, applied.actions.issues,
      applied.actions.transfers, message, input.token, _, signature, submitted, acceptable.read,
      ⟨transfer, htransfer, mem⟩, acceptable.written, readBack, valid.maySpend hinput, placed,
      verified⟩

/-- The reclaim of a swap takes the token away, with a signature in the request of a party that may
spend it once the deadline has come. -/
theorem Run.reclaim_signed :
    (after 0 Plain.mintAndWait).ledger.state? Plain.lockedId = some Plain.locked.toBytes ∧
    ((after 0 Plain.mintAndWait).step Plain.submitReclaim).ledger.state? Plain.lockedId = none ∧
    ∃ (message : Bytes) (signer : Identity) (place : Nat) (signature : Bytes),
      Plain.reclaim.messageToSign "reclaim" = .ok message ∧
      Plain.locked.owner.MaySpend 10 signer ∧
      Plain.reclaim.signatures[place]? = some signature ∧
      signer.verify Plain message signature = .ok () := by
  refine ⟨Plain.state?_lockedId, Plain.state?_lockedId_reclaimed, ?_⟩
  obtain ⟨place, -, signed⟩ := spent_only_when_signed 0 Plain.mintAndWait Plain.submitReclaim
  obtain ⟨_, _, _, _, _, _, message, token, signer, signature, submitted, -, -, written, read, may,
    placed, verified⟩ := signed _ _ Plain.state?_lockedId Plain.state?_lockedId_reclaimed
  obtain ⟨rfl, rfl, rfl, rfl⟩ := Event.submit.inj submitted
  obtain rfl : Plain.locked = token := Except.ok.inj (Plain.ofBytes_locked.symm.trans read)
  rw [Plain.after_mintAndWait] at may
  exact ⟨message, signer, _, signature, written, may, placed, verified⟩

end ConfidentialToken
