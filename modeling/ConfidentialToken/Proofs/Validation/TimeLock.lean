import ConfidentialToken.Proofs.Suite.Requests
import ConfidentialToken.Proofs.Validation.Signatures

/-!
# Safety of hash time locks

What acceptance of a request says about the scripts in it: a token that a script owns goes whole to
the party entitled at the time of the ledger, with that party's signature and, before the deadline,
against a pre-image in public; and a script that comes to own a token is one that both parties can
use. Tokens that an issue makes are not checked for scripts, and nothing is said of them.
-/

namespace ConfidentialToken

/-- When a script may lock an output. -/
theorem Script.check_eq_ok_iff {script : Script} {now : UInt64} :
    script.check now = .ok () ↔
      (script.sender.isNone = false ∧ script.recipient.isNone = false) ∧
      (isScript script.sender = false ∧ isScript script.recipient = false) ∧
      script.lock.hash ≠ [] ∧ now < script.deadline := by
  simp only [check, Outcome.guard_bind_eq_ok_iff, Outcome.guard_eq_ok_iff, not_or,
    Bool.not_eq_true, UInt64.not_le]
  exact and_congr_right fun _ => and_congr_right fun _ => and_congr_right fun _ => and_iff_left rfl

/-- Before the deadline the swap may hold tokens. -/
theorem Plain.swap_mayHold {now : UInt64} (early : now < 10) : swap.toIdentity.MayHold now := by
  intro _
  refine ⟨swap, ofIdentity_locked, Script.check_eq_ok_iff.mpr ?_⟩
  exact ⟨⟨by decide, by decide⟩, ⟨isScript_sender, isScript_recipient⟩, nofun, early⟩

/-- A pre-image opens a lock with a hash when the hash is its image. -/
theorem HashLock.isPreImage_iff {lock : HashLock} {preImage : Bytes} :
    lock.isPreImage preImage = true ↔ lock.hash ≠ [] ∧ lock.image preImage = lock.hash := by
  simp only [isPreImage, decide_eq_true_eq]

variable {P : Type} [Suite P] [PointGroup.LawfulEncoding P]

/-- Hash time locks are safe. In an accepted request every input whose stored token a script owns
comes with the one output, the owner and the signature that the script asks for at that time, and
every output that a script owns names two parties, a hash and a deadline to come. -/
theorem Validator.timeLocks_safe (pp : PublicParameters P) (logger : Logger)
    (log : List LogRecord) (ledger : Ledger) (anchor : String) (request : TokenRequest)
    (actions : ValidatedActions P)
    (accepted : (((Validator.create pp logger).validate ledger anchor request).perform log).1 =
      .ok actions) :
    request.readActions P = .ok (actions.issues, actions.transfers) ∧
    (∀ transfer ∈ actions.transfers, ∀ input ∈ transfer.inputs,
      ∃ (stored : Bytes) (token : Token P),
      ledger.state? input.id = some stored ∧ Token.ofBytes stored = .ok token ∧
      (Script.isScript token.owner = true → ∃ script output message signature,
        Script.ofIdentity token.owner = .ok script ∧
        transfer.outputs = [output] ∧
        output.owner = (if ledger.time < script.deadline then script.recipient
          else script.sender) ∧
        request.messageToSign anchor = .ok message ∧
        request.signatures[actions.place input.id]? = some signature ∧
        output.owner.verify P message signature = .ok () ∧
        (ledger.time < script.deadline → ∃ preImage,
          transfer.metadata.get? (HashLock.claimKey script.lock.hash) = some preImage ∧
          script.lock.hash ≠ [] ∧ script.lock.image preImage = script.lock.hash))) ∧
    ∀ transfer ∈ actions.transfers, ∀ output ∈ transfer.outputs,
      Script.isScript output.owner = true → ∃ script,
        Script.ofIdentity output.owner = .ok script ∧
        (script.sender.isNone = false ∧ script.recipient.isNone = false) ∧
        (Script.isScript script.sender = false ∧ Script.isScript script.recipient = false) ∧
        script.lock.hash ≠ [] ∧ ledger.time < script.deadline := by
  obtain ⟨message, acceptable⟩ := Validator.validate_eq_ok_iff.mp accepted
  refine ⟨acceptable.read, ?_, ?_⟩
  · intro transfer htransfer input hinput
    have valid := acceptable.transfers transfer htransfer
    refine ⟨input.token.toBytes, input.token, valid.stored input hinput,
      Token.ofBytes_toBytes (acceptable.inputs_fit transfer htransfer input hinput), ?_⟩
    intro isScript
    obtain ⟨script, read, output, single, owner, claim⟩ := valid.released input hinput isScript
    obtain ⟨signature, placed, verified⟩ := acceptable.signed_at_place htransfer hinput
    rw [Identity.entitledAt_script isScript read, ← owner] at verified
    refine ⟨script, output, message, signature, read, single, owner, acceptable.written, placed,
      verified, fun early => ?_⟩
    obtain ⟨preImage, disclosed, opens⟩ := claim early
    exact ⟨preImage, disclosed, HashLock.isPreImage_iff.mp opens⟩
  · intro transfer htransfer output houtput isScript
    obtain ⟨script, read, sound⟩ :=
      (acceptable.transfers transfer htransfer).held output houtput isScript
    exact ⟨script, read, Script.check_eq_ok_iff.mp sound⟩

/-- At the deadline itself the reclaim of a swap is accepted: the one output is the sender's, and so is
the signature. -/
theorem Validator.reclaim_safe :
    (((create Plain.parameters .default).validate (Plain.lockedAt 10) "reclaim"
      Plain.reclaim).perform []).1 = .ok ⟨[], [Plain.giveBack]⟩ ∧
    ∃ output message signature, Plain.giveBack.outputs = [output] ∧
      output.owner = Plain.swap.sender ∧
      Plain.reclaim.messageToSign "reclaim" = .ok message ∧
      Plain.reclaim.signatures[0]? = some signature ∧
      output.owner.verify Plain message signature = .ok () := by
  have accepted : (((create Plain.parameters .default).validate (Plain.lockedAt 10) "reclaim"
      Plain.reclaim).perform []).1 = .ok ⟨[], [Plain.giveBack]⟩ :=
    validate_eq_ok_iff.mpr ⟨_, Plain.reclaim_acceptable (Plain.state?_lockedAt 10) (by decide)⟩
  refine ⟨accepted, ?_⟩
  obtain ⟨-, inputs, -⟩ := timeLocks_safe Plain.parameters .default [] (Plain.lockedAt 10) "reclaim"
    Plain.reclaim _ accepted
  obtain ⟨stored, token, there, read, safe⟩ :=
    inputs _ (List.mem_singleton_self _) _ (List.mem_singleton_self _)
  obtain rfl := Option.some.inj ((Plain.state?_lockedAt 10).symm.trans there)
  obtain rfl : Plain.locked = token := Except.ok.inj (Plain.ofBytes_locked.symm.trans read)
  obtain ⟨script, output, message, signature, readScript, single, owner, written, placed, verified,
    -⟩ := safe Plain.isScript_locked
  obtain rfl : Plain.swap = script := Except.ok.inj (Plain.ofIdentity_locked.symm.trans readScript)
  exact ⟨output, message, signature, single, owner, written, placed, verified⟩

end ConfidentialToken
