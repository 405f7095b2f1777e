import ConfidentialToken.Proofs.Ledger.Calls
import ConfidentialToken.Proofs.Task.Failure
import ConfidentialToken.Proofs.Validation.TimeLock

/-!
# What a verdict depends on

Of the ledger a validator sees the tokens under the inputs of the transfers, and of its time on which side
of the deadlines of their scripts it stands. Two ledgers that agree on that give one verdict: the same
actions, or an error of one kind. The text of an error may tell the time, so the errors themselves need
not be equal. Each rule is shown not to see more, and the verdict is put together from the rules.
-/

namespace ConfidentialToken

/-! ## What is seen of a ledger -/

/-- Two times stand on the same side of a deadline. -/
def SameSide (now now' deadline : UInt64) : Prop := now < deadline ↔ now' < deadline

namespace TransferAction

variable {P : Type} [PointGroup P]

/-- A script owns an input or an output of the transfer. -/
def Involves (action : TransferAction P) (script : Script) : Prop :=
  (∃ input ∈ action.inputs, Script.ofIdentity input.token.owner = .ok script) ∨
    ∃ output ∈ action.outputs, Script.ofIdentity output.owner = .ok script

/-- A transfer does not tell two ledgers apart: they hold the same under its inputs, and their times stand
on the same side of the deadlines of its scripts. -/
structure SeesAlike (action : TransferAction P) (ledger ledger' : Ledger) : Prop where
  stored : ∀ id ∈ action.inputIds, ledger.state? id = ledger'.state? id
  timed : ∀ script, action.Involves script → SameSide ledger.time ledger'.time script.deadline

end TransferAction

/-! ## Times on the same side -/

section

variable {now now' : UInt64}

theorem Script.spender_congr {script : Script} (same : SameSide now now' script.deadline) :
    script.spender now = script.spender now' :=
  if_congr same rfl rfl

/-- What reads as a script is typed as one. -/
theorem Script.isScript_of_ofIdentity {owner : Identity} {script : Script}
    (read : ofIdentity owner = .ok script) : isScript owner = true := by
  obtain ⟨typed, parsed, read⟩ := Outcome.bind_eq_ok_iff.mp read
  obtain ⟨kind, named, read⟩ := Outcome.bind_eq_ok_iff.mp read
  obtain ⟨isScript, -⟩ := Outcome.guard_bind_eq_ok_iff.mp read
  obtain rfl := not_not.mp isScript
  unfold Script.isScript
  rw [parsed]
  exact decide_eq_true (IdentityKind.tag_of_ofTag named)

theorem Identity.signerAt_congr {owner : Identity}
    (same : ∀ script, Script.ofIdentity owner = .ok script → SameSide now now' script.deadline) :
    owner.signerAt now = owner.signerAt now' := by
  cases isScript : Script.isScript owner with
  | false => rw [signerAt_plain isScript, signerAt_plain isScript]
  | true =>
    rw [signerAt_script isScript, signerAt_script isScript]
    cases read : Script.ofIdentity owner with
    | error e => rfl
    | ok script => exact congrArg Except.ok (Script.spender_congr (same script read))

/-- A script that is refused for its deadline is refused with the time in the text. -/
theorem Script.check_alike {script : Script} (same : SameSide now now' script.deadline) :
    Outcome.Alike (script.check now) (script.check now') := by
  have late : script.deadline ≤ now ↔ script.deadline ≤ now' := by
    rw [← UInt64.not_lt, ← UInt64.not_lt]
    exact not_congr same
  unfold check
  simp only [late]
  split
  · exact .refl _
  split
  · exact .refl _
  split
  · exact .refl _
  split
  · exact .error rfl
  · exact .refl _

end

/-! ## The rules -/

section

variable {P : Type} [Suite P]

/-- The setting with another ledger. -/
def Setting.onLedger (setting : Setting P) (ledger : Ledger) : Setting P := { setting with ledger }

variable {setting : Setting P} {ledger : Ledger} {action : TransferAction P}

namespace Rule

omit [Suite P] in
theorem lock_alike {now now' : UInt64} {index : Nat} {output : Token P}
    (same : ∀ script, Script.ofIdentity output.owner = .ok script →
      SameSide now now' script.deadline) :
    Outcome.Alike (lock now index output) (lock now' index output) := by
  unfold lock
  split
  · exact (Outcome.Alike.refl _).bind fun script read =>
      (Script.check_alike (same script read)).inContext _
  · exact .refl _

theorem spend_onLedger {input : ActionInput P}
    (same : setting.ledger.state? input.id = ledger.state? input.id) :
    spend (setting.onLedger ledger) input = spend setting input := by
  unfold spend
  rw [same]
  rfl

omit [Suite P] in
theorem unlock_onLedger {input : ActionInput P}
    (same : ∀ script, Script.ofIdentity input.token.owner = .ok script →
      SameSide setting.ledger.time ledger.time script.deadline) :
    unlock (setting.onLedger ledger) action input = unlock setting action input := by
  unfold unlock
  split
  · cases read : Script.ofIdentity input.token.owner with
    | error e => rfl
    | ok script =>
      rw [Task.lift_ok_bind, Task.lift_ok_bind]
      split
      · exact if_congr (same script read).symm rfl rfl
      · rfl
  · rfl

theorem transferInputs_alike (alike : action.SeesAlike setting.ledger ledger) :
    Task.Alike (transferInputs.check setting action)
      (transferInputs.check (setting.onLedger ledger) action) := by
  refine (Task.Alike.refl _).bind fun _ => .forM fun input mem => .of_eq ?_
  exact (spend_onLedger (alike.stored _ (List.mem_map_of_mem mem))).symm

omit [Suite P] in
theorem transferSignatures_alike (alike : action.SeesAlike setting.ledger ledger) :
    Task.Alike (transferSignatures.check setting action)
      (transferSignatures.check (setting.onLedger ledger) action) := by
  refine Task.Alike.bind (.forM fun input mem => .of_eq ?_) fun _ => .refl _
  rw [Identity.signerAt_congr fun script read => alike.timed script (.inl ⟨input, mem, read⟩)]
  rfl

omit [Suite P] in
theorem transferScripts_alike (alike : action.SeesAlike setting.ledger ledger) :
    Task.Alike (transferScripts.check setting action)
      (transferScripts.check (setting.onLedger ledger) action) := by
  refine Task.Alike.bind (.forM fun input mem => ?_) fun _ => .forM fun (i, output) mem => ?_
  · exact .of_eq (unlock_onLedger fun script read =>
      alike.timed script (.inl ⟨input, mem, read⟩)).symm
  · have listed : output ∈ action.outputs := mem_of_mem_withPositions mem
    exact .lift (lock_alike fun script read => alike.timed script (.inr ⟨output, listed, read⟩))

/-- The rules for transfers do not tell ledgers apart that the transfer does not tell apart. -/
theorem forTransfers_alike (alike : action.SeesAlike setting.ledger ledger) :
    ∀ rule ∈ forTransfers,
      Task.Alike (rule.check setting action) (rule.check (setting.onLedger ledger) action) :=
  -- the proof of a transfer is checked without the ledger
  forall_mem_forTransfers.mpr ⟨transferInputs_alike alike, transferSignatures_alike alike, .refl _,
    transferScripts_alike alike⟩

end Rule

/-! ## The verdict -/

namespace Validator

omit [Suite P] in
/-- Actions are checked alike on two ledgers when each rule checks each of them alike. -/
theorem checkActions_alike {α : Type} {rules : List (Rule P α)} {actions : List α} (kind : String)
    (each : ∀ action ∈ actions, ∀ rule ∈ rules,
      Task.Alike (rule.check setting action) (rule.check (setting.onLedger ledger) action)) :
    Task.Alike (checkActions setting kind rules actions)
      (checkActions (setting.onLedger ledger) kind rules actions) := by
  refine Task.Alike.forM fun (i, action) mem => ?_
  refine Task.Alike.bind (.forM fun rule listed => ?_) fun _ => .refl _
  exact (each action (mem_of_mem_withPositions mem) rule listed).inContext _

/-- The actions of a request are checked alike on two ledgers that its transfers do not tell apart. -/
theorem checkRequest_alike (pp : PublicParameters P) (logger : Logger)
    (issues : List (IssueAction P)) {transfers : List (TransferAction P)} {ledger' : Ledger}
    (alike : ∀ transfer ∈ transfers, transfer.SeesAlike ledger ledger') (setting : Setting P) :
    Task.Alike ((create pp logger).checkRequest (setting.onLedger ledger) issues transfers)
      ((create pp logger).checkRequest (setting.onLedger ledger') issues transfers) := by
  unfold checkRequest
  refine Task.Alike.bind (checkActions_alike "issue" fun action _ rule listed => ?_) fun _ =>
    Task.Alike.bind (checkActions_alike "transfer" fun action mem => ?_) fun _ => .refl _
  · -- the one rule for issues asks nothing of the ledger
    obtain rfl := List.mem_singleton.mp listed
    exact .refl _
  · exact Rule.forTransfers_alike (alike action mem)

/-- A request is decided alike on two ledgers that its transfers do not tell apart. -/
theorem validate_alike {pp : PublicParameters P} {logger : Logger} {ledger ledger' : Ledger}
    {anchor : String} {request : TokenRequest}
    (alike : ∀ issues transfers, request.readActions P = .ok (issues, transfers) →
      ∀ transfer ∈ transfers, transfer.SeesAlike ledger ledger') :
    Task.Alike ((create pp logger).validate ledger anchor request)
      ((create pp logger).validate ledger' anchor request) := by
  unfold validate
  refine (Task.Alike.refl _).bind fun _ => .bind_lift fun message _ => ?_
  refine (Task.Alike.refl _).bind fun _ => .bind_lift fun (issues, transfers) read => ?_
  have read := Outcome.inContext_eq_ok_iff.mp read
  have checked := checkRequest_alike pp logger issues (alike issues transfers read)
    ((create pp logger).settingFor ledger anchor message)
  exact checked.runApart (fun log => ⟨.ofList request.signatures, [], log⟩) Progress.log _

/-- A verdict depends on a ledger through the tokens under the inputs and the deadlines of the scripts
alone. So it is the same at any time for a request whose transfers involve no script, and the same after
any other request that neither spends nor creates an input of its transfers. -/
theorem verdict_congr (pp : PublicParameters P) (logger : Logger) (ledger : Ledger) (anchor : String)
    (request : TokenRequest) :
    (∀ ledger', (∀ issues transfers, request.readActions P = .ok (issues, transfers) →
        ∀ transfer ∈ transfers, transfer.SeesAlike ledger ledger') →
      Task.Alike ((create pp logger).validate ledger anchor request)
        ((create pp logger).validate ledger' anchor request)) ∧
    ((∀ issues transfers, request.readActions P = .ok (issues, transfers) →
        ∀ transfer ∈ transfers, ∀ script, ¬transfer.Involves script) →
      ∀ time, Task.Alike ((create pp logger).validate ledger anchor request)
        ((create pp logger).validate (ledger.setTime time) anchor request)) ∧
    ∀ (other : String) (issues' : List (IssueAction P)) (transfers' : List (TransferAction P))
        (made : List TokenId) (after : Ledger),
      (Ledger.apply other issues' transfers').perform ledger = (.ok made, after) →
      (∀ issues transfers, request.readActions P = .ok (issues, transfers) →
        ∀ transfer ∈ transfers, ∀ id ∈ transfer.inputIds,
          id ∉ transfers'.flatMap TransferAction.inputIds ∧ id ∉ made) →
      Task.Alike ((create pp logger).validate ledger anchor request)
        ((create pp logger).validate after anchor request) := by
  refine ⟨fun ledger' alike => validate_alike alike, fun plain time => ?_, ?_⟩
  · refine validate_alike fun issues transfers read transfer mem => ⟨fun _ _ => rfl, ?_⟩
    intro script involved
    exact absurd involved (plain issues transfers read transfer mem script)
  · intro other issues' transfers' made after applied apart
    obtain ⟨-, -, rfl, rfl⟩ := Ledger.perform_apply_eq_ok_iff.mp applied
    refine validate_alike fun issues transfers read transfer mem => ⟨?_, fun _ _ => Iff.rfl⟩
    intro id input
    obtain ⟨unspent, uncreated⟩ := apart issues transfers read transfer mem id input
    exact (Ledger.state?_update unspent uncreated).symm

end Validator

end

namespace Plain

/-! ## The reclaim on other ledgers -/

/-- The script of the swap is the only one that the reclaim involves. -/
theorem eq_swap_of_involves {script : Script} (involved : giveBack.Involves script) :
    swap = script := by
  rcases involved with ⟨input, mem, read⟩ | ⟨output, mem, read⟩
  · obtain rfl := List.mem_singleton.mp mem
    exact Except.ok.inj (ofIdentity_locked.symm.trans read)
  · obtain rfl := List.mem_singleton.mp mem
    exact absurd (isScript_sender.symm.trans (Script.isScript_of_ofIdentity read)) nofun

/-- The transfers that are read from the reclaim. -/
theorem transfers_of_reclaim {issues : List (IssueAction Plain)}
    {transfers : List (TransferAction Plain)}
    (read : reclaim.readActions Plain = .ok (issues, transfers)) : transfers = [giveBack] := by
  have known := (reclaim_acceptable (state?_lockedAt 10) (by decide)).read
  exact (Prod.mk.inj (Except.ok.inj (read.symm.trans known))).2

/-- A transfer of a token that no script owns to a party that is no script. -/
def handOver : TransferAction Plain :=
  passOn lockedId ⟨sender.identity, locked.data⟩ recipient.identity

set_option maxRecDepth 4096 in
theorem handOver_fits : handOver.Fits where
  countInputs := by decide
  inputs := List.forall_mem_singleton.mpr ⟨by decide, swap_fits.sender⟩
  countOutputs := by decide
  outputs := List.forall_mem_singleton.mpr swap_fits.recipient
  proof := by decide
  metadata := by decide
  countExtraSigners := by decide
  extraSigners := nofun

theorem handOver_plain (script : Script) : ¬handOver.Involves script := by
  rintro (⟨input, mem, read⟩ | ⟨output, mem, read⟩)
  · obtain rfl := List.mem_singleton.mp mem
    exact absurd (isScript_sender.symm.trans (Script.isScript_of_ofIdentity read)) nofun
  · obtain rfl := List.mem_singleton.mp mem
    exact absurd (isScript_recipient.symm.trans (Script.isScript_of_ofIdentity read)) nofun

/-- The transfers that are read from the request that hands the token over. -/
theorem transfers_of_handOver {issues : List (IssueAction Plain)}
    {transfers : List (TransferAction Plain)}
    (read : (requestTransfer handOver []).readActions Plain = .ok (issues, transfers)) :
    transfers = [handOver] := by
  have known : (requestTransfer handOver []).readActions Plain = .ok ([], [handOver]) :=
    TokenRequest.readActions_eq_ok_iff.mpr
      ⟨.nil, .cons (TransferAction.ofBytes_toBytes handOver_fits) .nil⟩
  exact (Prod.mk.inj (Except.ok.inj (read.symm.trans known))).2

set_option maxRecDepth 4096 in
/-- Another token can be issued where the first one lies. -/
theorem exists_apply_more : ∃ after,
    (Ledger.apply "more" [issue sender.identity [locked]] []).perform (lockedAt 10) =
      (.ok [⟨"more", 0⟩], after) := by
  have fresh : "more" ∉ (lockedAt 10).history.map LedgerEvent.anchor := by decide
  have short : locked.toBytes.length ≤ Wire.sizeLimit := by decide
  exact ⟨_, Ledger.perform_apply_eq_ok_iff.mpr ⟨⟨fresh, nofun, List.nodup_nil⟩,
    List.forall_mem_singleton.mpr fun _ => short, rfl, rfl⟩⟩

/-- The reclaim is decided alike at all times from the deadline on, and after another token was issued. A
transfer that involves no script is decided alike before the deadline and after it. -/
theorem reclaim_verdict_congr :
    Task.Alike ((Validator.create parameters .default).validate (lockedAt 10) "reclaim" reclaim)
      ((Validator.create parameters .default).validate (lockedAt 20) "reclaim" reclaim) ∧
    Task.Alike
      ((Validator.create parameters .default).validate (lockedAt 9) "pay"
        (requestTransfer handOver []))
      ((Validator.create parameters .default).validate ((lockedAt 9).setTime 20) "pay"
        (requestTransfer handOver [])) ∧
    ∃ after, (Ledger.apply "more" [issue sender.identity [locked]] []).perform (lockedAt 10) =
        (.ok [⟨"more", 0⟩], after) ∧
      Task.Alike ((Validator.create parameters .default).validate (lockedAt 10) "reclaim" reclaim)
        ((Validator.create parameters .default).validate after "reclaim" reclaim) := by
  obtain ⟨after, applied⟩ := exists_apply_more
  refine ⟨?late, ?plain, after, applied, ?more⟩
  case late =>
    refine (Validator.verdict_congr parameters .default (lockedAt 10) "reclaim" reclaim).1 _ ?_
    intro issues transfers read transfer mem
    obtain rfl := transfers_of_reclaim read
    obtain rfl := List.mem_singleton.mp mem
    refine ⟨List.forall_mem_singleton.mpr ?_, fun script involved => ?_⟩
    · exact (state?_lockedAt 10).trans (state?_lockedAt 20).symm
    · obtain rfl := eq_swap_of_involves involved
      exact ⟨fun early => absurd early (by decide), fun early => absurd early (by decide)⟩
  case plain =>
    refine (Validator.verdict_congr parameters .default (lockedAt 9) "pay"
      (requestTransfer handOver [])).2.1 ?_ 20
    intro issues transfers read transfer mem
    obtain rfl := transfers_of_handOver read
    obtain rfl := List.mem_singleton.mp mem
    exact handOver_plain
  case more =>
    refine (Validator.verdict_congr parameters .default (lockedAt 10) "reclaim" reclaim).2.2 _ _ _ _ _
      applied ?_
    intro issues transfers read transfer mem
    obtain rfl := transfers_of_reclaim read
    obtain rfl := List.mem_singleton.mp mem
    exact List.forall_mem_singleton.mpr ⟨List.not_mem_nil, by decide⟩

end Plain

end ConfidentialToken
