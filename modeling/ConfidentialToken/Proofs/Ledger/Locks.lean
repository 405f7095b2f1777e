import ConfidentialToken.Proofs.Ledger.Conservation
import ConfidentialToken.Proofs.Validation.TimeLock

/-!
# Scripts on a ledger

A script that owns an unspent token was checked when a transfer gave the token to it: it names two
parties, neither of them a script, and a hash. A script that an issue gave a token to was not checked.
So over a whole run every unspent token of a script can be used by the parties of the script, or an
issue made it; and an issue can make a token that nobody will ever spend.
-/

namespace ConfidentialToken

/-- A script names two parties, who are no scripts, and a hash: what is asked of it at all times. -/
structure Script.Usable (script : Script) : Prop where
  named : script.sender.isNone = false ∧ script.recipient.isNone = false
  plain : isScript script.sender = false ∧ isScript script.recipient = false
  locked : script.lock.hash ≠ []

/-- An identity is a usable script, if it is a script at all. -/
def Identity.OwnsUsably (owner : Identity) : Prop :=
  Script.isScript owner = true → ∃ script, Script.ofIdentity owner = .ok script ∧ script.Usable

/-- What may hold an output at some time is usable at all times. -/
theorem Identity.MayHold.ownsUsably {owner : Identity} {now : UInt64} (held : owner.MayHold now) :
    owner.OwnsUsably := by
  intro isScript
  obtain ⟨script, read, sound⟩ := held isScript
  obtain ⟨named, plain, locked, -⟩ := Script.check_eq_ok_iff.mp sound
  exact ⟨script, read, named, plain, locked⟩

variable {P : Type} [Suite P]

/-- An issue of a submission made a token. -/
def Applied.Issued (applied : Applied P) (id : TokenId) (token : Token P) : Prop :=
  applied.anchor = id.txId ∧ applied.issued[id.index.toNat]? = some token

/-- The owner of what a submission makes is usable, or an issue made it. -/
theorem Applied.GoesThrough.ownsUsably_or_issued {applied : Applied P} {ledger : Ledger}
    {message : Bytes} (through : applied.GoesThrough ledger message) {index : Nat} {token : Token P}
    (listed : (index, token) ∈
      withPositions (Ledger.outputsOf applied.actions.issues applied.actions.transfers)) :
    token.owner.OwnsUsably ∨ applied.Issued ⟨applied.anchor, UInt64.ofNat index⟩ token := by
  have outputs : Ledger.outputsOf applied.actions.issues applied.actions.transfers =
      applied.issued ++ applied.transferred := rfl
  have there := getElem?_of_mem_withPositions listed
  have few := through.acceptable.length_outputs_lt
  rw [outputs] at there few
  have below : index < (applied.issued ++ applied.transferred).length :=
    (List.getElem?_eq_some_iff.mp there).1
  -- the outputs of issues are numbered first, so the position tells which kind of action made it
  by_cases early : index < applied.issued.length
  · refine .inr ⟨rfl, ?_⟩
    rw [UInt64.toNat_ofNat_of_lt' (Nat.lt_trans below few)]
    rwa [List.getElem?_append_left early] at there
  · left
    rw [List.getElem?_append_right (Nat.le_of_not_lt early)] at there
    obtain ⟨transfer, htransfer, mem⟩ := List.mem_flatMap.mp (List.mem_of_getElem? there)
    exact ((through.acceptable.transfers transfer htransfer).held token mem).ownsUsably

/-- Every stored token has an owner that is usable, or an issue of the run made it. -/
def Run.Checked (run : Run P) : Prop :=
  ∀ id bytes, run.ledger.state? id = some bytes → ∃ token : Token P, token.Fits ∧
    bytes = token.toBytes ∧
    (token.owner.OwnsUsably ∨ ∃ applied ∈ run.applied, applied.Issued id token)

theorem Run.Checked.submit {run : Run P} {applied : Applied P} {message : Bytes}
    (checked : run.Checked) (through : applied.GoesThrough run.ledger message) :
    Checked ⟨applied.result run.ledger, run.applied ++ [applied]⟩ := by
  intro id bytes there
  rcases Ledger.state?_or_mem_of_update there with before | created
  · obtain ⟨token, fits, written, usable | ⟨maker, mem, issued⟩⟩ := checked id bytes before
    · exact ⟨token, fits, written, .inl usable⟩
    · exact ⟨token, fits, written, .inr ⟨maker, List.mem_append_left _ mem, issued⟩⟩
  · obtain ⟨index, token, listed, -, rfl, rfl⟩ := Ledger.mem_created_iff.mp created
    have fits := through.acceptable.outputs_fit token (mem_of_mem_withPositions listed)
    refine ⟨token, fits, rfl, (through.ownsUsably_or_issued listed).imp_right fun issued => ?_⟩
    exact ⟨applied, List.mem_append_right _ (List.mem_singleton_self _), issued⟩

theorem Run.checked_after (time : UInt64) (events : List (Event P)) : (after time events).Checked := by
  refine after_induction ?_ ?_ ?_ events
  · intro id bytes there
    exact nomatch there
  · intro run now checked
    exact checked
  · intro run applied message through checked
    exact checked.submit through

/-- An unspent token that a script owns was made by an issue, or the script names two parties, who are
no scripts, and a hash. -/
theorem Run.usable_or_issued [PointGroup.LawfulEncoding P] (time : UInt64) (events : List (Event P))
    {id : TokenId} {token : Token P} (there : (after time events).ledger.token? id = some token)
    (isScript : Script.isScript token.owner = true) :
    (∃ applied ∈ (after time events).applied, applied.Issued id token) ∨
    ∃ script, Script.ofIdentity token.owner = .ok script ∧
      (script.sender.isNone = false ∧ script.recipient.isNone = false) ∧
      (Script.isScript script.sender = false ∧ Script.isScript script.recipient = false) ∧
      script.lock.hash ≠ [] := by
  obtain ⟨bytes, stored, read⟩ := Option.bind_eq_some_iff.mp there
  -- the bytes that are stored read as one token only, the one that was checked
  obtain ⟨other, fits, rfl, usable⟩ := checked_after time events id bytes stored
  rw [Token.ofBytes_toBytes fits] at read
  obtain rfl := Option.some.inj read
  rcases usable with usable | issued
  · obtain ⟨script, readScript, named, plain, locked⟩ := usable isScript
    exact .inr ⟨script, readScript, named, plain, locked⟩
  · exact .inl issued

namespace Plain

/-- What is signed to issue the token of the swap and one of its sender. -/
def mintBothMessage : Bytes :=
  TokenRequest.signedContent.encode ([(issue sender.identity [locked, cash]).toBytes], [], "mint")

/-- The issue of both tokens, with its action. -/
def mintedBoth : Applied Plain where
  parameters := parameters
  anchor := "mint"
  request :=
    requestIssue (issue sender.identity [locked, cash]) (Suite.sign Plain default mintBothMessage)
  actions := ⟨[issue sender.identity [locked, cash]], []⟩

/-- The transfer by which the sender locks its token in the swap. -/
def lockUp : TransferAction Plain := passOn cashId cash swap.toIdentity

/-- The token that the transfer makes. -/
def lockedCash : Token Plain := ⟨swap.toIdentity, cash.data⟩

/-- Where it lies. -/
def lockedCashId : TokenId := ⟨"lock", 0⟩

/-- What is signed to lock the token. -/
def lockUpMessage : Bytes := TokenRequest.signedContent.encode ([], [lockUp.toBytes], "lock")

/-- The transfer, with its action. -/
def lockedUp : Applied Plain where
  parameters := parameters
  anchor := "lock"
  request := requestTransfer lockUp (Suite.sign Plain default lockUpMessage)
  actions := ⟨[], [lockUp]⟩

/-- The sender submits the issue. -/
def submitBoth : Event Plain := .submit parameters .default "mint" mintedBoth.request

/-- The sender submits the transfer. -/
def submitLock : Event Plain := .submit parameters .default "lock" lockedUp.request

/-- Both tokens are issued, and then the sender locks its own. -/
def mintAndLock : List (Event Plain) := [submitBoth, submitLock]

set_option maxRecDepth 4096 in
theorem mintBothIssue_fits : (issue sender.identity [locked, cash]).Fits where
  issuer := swap_fits.sender
  count := by decide
  outputs := List.forall_mem_cons.mpr ⟨locked_fits, List.forall_mem_singleton.mpr swap_fits.sender⟩
  proof := by decide
  metadata := by decide

set_option maxRecDepth 4096 in
theorem lockUp_fits : lockUp.Fits where
  countInputs := by decide
  inputs := List.forall_mem_singleton.mpr ⟨by decide, swap_fits.sender⟩
  countOutputs := by decide
  outputs := List.forall_mem_singleton.mpr locked_fits
  proof := by decide
  metadata := by decide
  countExtraSigners := by decide
  extraSigners := nofun

set_option maxRecDepth 8192 in
theorem mintedBoth_through :
    mintedBoth.GoesThrough (Run.start 0 : Run Plain).ledger mintBothMessage where
  acceptable :=
    senderIssue_acceptable _ mintBothIssue_fits nofun (by decide) (by decide) rfl (by decide)
  takes := ⟨List.not_mem_nil, nofun, List.nodup_nil⟩

/-- The tokens lie on the ledger after they were issued. -/
theorem state?_mintedBoth {id : TokenId} {token : Token Plain}
    (made : (id, token.toBytes) ∈ Ledger.created "mint" [locked, cash]) :
    (mintedBoth.result (.empty 0)).state? id = some token.toBytes :=
  Ledger.state?_update_of_mem (Ledger.nodup_created (by decide)) made

theorem state?_lockedId_mintedBoth :
    (mintedBoth.result (.empty 0)).state? lockedId = some locked.toBytes :=
  state?_mintedBoth List.mem_cons_self

theorem state?_cashId_mintedBoth :
    (mintedBoth.result (.empty 0)).state? cashId = some cash.toBytes :=
  state?_mintedBoth (List.mem_cons_of_mem _ List.mem_cons_self)

set_option maxRecDepth 8192 in
theorem lockedUp_through : lockedUp.GoesThrough (mintedBoth.result (.empty 0)) lockUpMessage where
  acceptable := by
    have released : cash.owner.Releases 0 lockUp := fun isScript =>
      absurd (isScript_sender.symm.trans isScript) Bool.false_ne_true
    refine requestTransfer_acceptable rfl lockUp_fits
      (passOn_valid state?_cashId_mintedBoth (by decide) released (swap_mayHold (by decide)))
      (TokenRequest.messageToSign_eq_ok_iff.mpr ⟨rfl, by decide⟩) ?_
    show (sender.identity.entitledAt 0).verify Plain _ _ = _
    rw [Identity.entitledAt_plain isScript_sender]
    exact verify_sender lockUpMessage
  takes := ⟨by decide, List.forall_mem_singleton.mpr (state?_cashId_mintedBoth ▸ nofun),
    List.nodup_singleton cashId⟩

theorem after_mintAndLock : Run.after 0 mintAndLock =
    ⟨lockedUp.result (mintedBoth.result (.empty 0)), [mintedBoth, lockedUp]⟩ := by
  have first : Run.after 0 [submitBoth] = ⟨mintedBoth.result (.empty 0), [mintedBoth]⟩ :=
    Run.after_append_submit (Run.after_nil 0) mintedBoth_through .default
  exact Run.after_append_submit first lockedUp_through .default

/-- The token of the swap stays where an issue put it. -/
theorem token?_lockedId : (Run.after 0 mintAndLock).ledger.token? lockedId = some locked := by
  rw [after_mintAndLock]
  refine Ledger.token?_eq_some ?_ locked_fits
  exact (Ledger.state?_update (by decide) (by decide)).trans state?_lockedId_mintedBoth

/-- The token that the transfer made lies on the ledger too. -/
theorem token?_lockedCashId :
    (Run.after 0 mintAndLock).ledger.token? lockedCashId = some lockedCash := by
  rw [after_mintAndLock]
  exact Ledger.token?_eq_some SortedMap.get?_insert_self locked_fits

end Plain

/-- Two tokens of the swap lie on a ledger. An issue made the first. No issue made the second, so the
script that owns it names two parties, who are no scripts, and a hash. -/
theorem Run.swap_issued :
    (after 0 Plain.mintAndLock).ledger.token? Plain.lockedId = some Plain.locked ∧
    ((∃ applied ∈ (after 0 Plain.mintAndLock).applied,
        applied.Issued Plain.lockedId Plain.locked) ∨
      ∃ script, Script.ofIdentity Plain.locked.owner = .ok script ∧
        (script.sender.isNone = false ∧ script.recipient.isNone = false) ∧
        (Script.isScript script.sender = false ∧ Script.isScript script.recipient = false) ∧
        script.lock.hash ≠ []) ∧
    (after 0 Plain.mintAndLock).ledger.token? Plain.lockedCashId = some Plain.lockedCash ∧
    ∃ script, Script.ofIdentity Plain.lockedCash.owner = .ok script ∧
      (script.sender.isNone = false ∧ script.recipient.isNone = false) ∧
      (Script.isScript script.sender = false ∧ Script.isScript script.recipient = false) ∧
      script.lock.hash ≠ [] := by
  have first := usable_or_issued 0 Plain.mintAndLock Plain.token?_lockedId Plain.isScript_locked
  have second :=
    usable_or_issued 0 Plain.mintAndLock Plain.token?_lockedCashId Plain.isScript_locked
  refine ⟨Plain.token?_lockedId, first, Plain.token?_lockedCashId, second.resolve_left ?_⟩
  -- the issue has another anchor, and the transfer that has this one comes with no issue
  rw [Plain.after_mintAndLock]
  rintro ⟨applied, mem, anchored, issued⟩
  rcases List.mem_pair.mp mem with rfl | rfl
  · exact absurd anchored (by decide)
  · exact nomatch issued

/-! ## A token that nobody can spend -/

namespace Plain

/-- A script of nobody. -/
def deadScript : Script := ⟨.none, .none, 0, ⟨[], .sha256, .raw⟩⟩

/-- A token that the script of nobody owns. -/
def stuck : Token Plain := ⟨deadScript.toIdentity, ⟨⟨5⟩⟩⟩

/-- What is signed to issue the token. -/
def stuckMessage : Bytes :=
  TokenRequest.signedContent.encode ([(issue sender.identity [stuck]).toBytes], [], "mint")

/-- The issue of the token, with its action. -/
def mintedStuck : Applied Plain where
  parameters := parameters
  anchor := "mint"
  request := requestIssue (issue sender.identity [stuck]) (Suite.sign Plain default stuckMessage)
  actions := ⟨[issue sender.identity [stuck]], []⟩

theorem deadScript_fits : deadScript.Fits := ⟨by decide, by decide, by decide, by decide⟩

set_option maxRecDepth 2048 in
theorem stuck_fits : stuck.Fits := by decide

set_option maxRecDepth 2048 in
theorem stuckIssue_fits : (issue sender.identity [stuck]).Fits where
  issuer := swap_fits.sender
  count := by decide
  outputs := List.forall_mem_singleton.mpr stuck_fits
  proof := by decide
  metadata := by decide

set_option maxRecDepth 4096 in
theorem mintedStuck_through :
    mintedStuck.GoesThrough (Run.start 0 : Run Plain).ledger stuckMessage where
  acceptable := senderIssue_acceptable _ stuckIssue_fits nofun (by decide) (by decide) rfl (by decide)
  takes := ⟨List.not_mem_nil, nofun, List.nodup_nil⟩

/-- The sender submits the issue. -/
def submitStuck : Event Plain := .submit parameters .default "mint" mintedStuck.request

theorem after_submitStuck :
    Run.after 0 [submitStuck] = ⟨mintedStuck.result (.empty 0), [mintedStuck]⟩ :=
  Run.after_append_submit (Run.after_nil 0) mintedStuck_through .default

end Plain

/-- The issue of a token of the script of nobody is accepted, and then the token lies on the ledger. -/
theorem Run.stuck_unspent :
    ∃ token : Token Plain,
      (after 0 [Plain.submitStuck]).ledger.token? Plain.lockedId = some token ∧
      Script.isScript token.owner = true ∧
      ¬∃ script, Script.ofIdentity token.owner = .ok script ∧
        (script.sender.isNone = false ∧ script.recipient.isNone = false) ∧
        (Script.isScript script.sender = false ∧ Script.isScript script.recipient = false) ∧
        script.lock.hash ≠ [] := by
  have stored : (after 0 [Plain.submitStuck]).ledger.state? Plain.lockedId =
      some Plain.stuck.toBytes := by
    rw [Plain.after_submitStuck]
    exact SortedMap.get?_insert_self
  refine ⟨Plain.stuck, Ledger.token?_eq_some stored Plain.stuck_fits,
    Script.isScript_wrap .script Plain.deadScript_fits.raw, ?_⟩
  rintro ⟨script, read, ⟨named, -⟩, -⟩
  rw [Plain.stuck, Script.ofIdentity_toIdentity Plain.deadScript_fits] at read
  obtain rfl := Except.ok.inj read
  exact absurd named (by decide)

end ConfidentialToken
