import ConfidentialToken.Proofs.Validation.Progress
import ConfidentialToken.Proofs.Positions

/-!
# What the rules demand

What makes an issue or a transfer valid on its own, and who must sign for it. Every rule contributes
one `Demands` lemma, and those of a kind of action add up to `Validator.demands_issue` and
`Validator.demands_transfer`. The rules themselves are not looked at after this.
-/

namespace ConfidentialToken

/-! ## Who signs -/

/-- A plain owner signs for itself. -/
theorem Identity.signerAt_plain {owner : Identity} (plain : Script.isScript owner = false)
    (now : UInt64) : owner.signerAt now = .ok owner := by
  unfold signerAt
  rw [plain]
  rfl

/-- For a script the party signs that may spend. -/
theorem Identity.signerAt_script {owner : Identity} (isScript : Script.isScript owner = true)
    (now : UInt64) :
    owner.signerAt now = Script.ofIdentity owner >>= fun script => pure (script.spender now) := by
  unfold signerAt
  rw [isScript]
  rfl

/-- Who must sign for what an identity owns at time `now`; the identity itself where its script
cannot be read. -/
def Identity.entitledAt (owner : Identity) (now : UInt64) : Identity :=
  match owner.signerAt now with
  | .ok signer => signer
  | .error _ => owner

theorem Identity.entitledAt_of_signerAt {owner signer : Identity} {now : UInt64}
    (h : owner.signerAt now = .ok signer) : owner.entitledAt now = signer := by
  unfold entitledAt
  rw [h]

theorem Identity.entitledAt_plain {owner : Identity} (plain : Script.isScript owner = false)
    (now : UInt64) : owner.entitledAt now = owner :=
  entitledAt_of_signerAt (signerAt_plain plain now)

theorem Identity.entitledAt_script {owner : Identity} {script : Script}
    (isScript : Script.isScript owner = true) (read : Script.ofIdentity owner = .ok script)
    (now : UInt64) : owner.entitledAt now = script.spender now := by
  apply entitledAt_of_signerAt
  rw [signerAt_script isScript, read]
  rfl

/-- There is somebody to sign, unless the owner is a script that cannot be read. -/
theorem Identity.exists_signerAt_iff {owner : Identity} {now : UInt64} :
    (∃ signer, owner.signerAt now = .ok signer) ↔
      (Script.isScript owner = true → ∃ script, Script.ofIdentity owner = .ok script) := by
  cases isScript : Script.isScript owner with
  | false => exact ⟨fun _ => nofun, fun _ => ⟨owner, signerAt_plain isScript now⟩⟩
  | true =>
    rw [signerAt_script isScript]
    constructor
    · rintro ⟨_, h⟩ -
      obtain ⟨script, read, -⟩ := Outcome.bind_eq_ok_iff.mp h
      exact ⟨script, read⟩
    · intro h
      obtain ⟨script, read⟩ := h rfl
      exact ⟨script.spender now, Outcome.bind_eq_ok_iff.mpr ⟨script, read, rfl⟩⟩

/-- The signers of a request in order: the issuers, then for each transfer those who sign for its
inputs and its extra signers. -/
def ValidatedActions.signers {P : Type} (actions : ValidatedActions P) (now : UInt64) : List Identity :=
  actions.issues.map IssueAction.issuer ++ actions.transfers.flatMap fun transfer =>
    transfer.inputs.map (·.token.owner.entitledAt now) ++ transfer.extraSigners

/-- The ids that the transfers of a request spend. -/
def ValidatedActions.spent {P : Type} (actions : ValidatedActions P) : List TokenId :=
  actions.transfers.flatMap TransferAction.inputIds

/-! ## Valid actions -/

section

variable {P : Type} [Suite P]

/-- An issue that breaks no rule, its signature apart. -/
structure IssueAction.Valid (pp : PublicParameters P) (action : IssueAction P) : Prop where
  wellFormed : action.check = .ok ()
  authorized : Rule.authorize pp action.issuer = .ok ()
  proved : IssueProof.verify pp action.commitments action.proof = .ok ()

/-- An identity may own an output that is made at time `now`: a plain one always, a script when it can
be read and is sound. -/
def Identity.MayHold (owner : Identity) (now : UInt64) : Prop :=
  Script.isScript owner = true → ∃ script, Script.ofIdentity owner = .ok script ∧
    script.check now = .ok ()

/-- A script lets a transfer spend what it owns: the entitled party gets the one output, and before
the deadline the transfer's metadata discloses a pre-image. -/
def Script.Releases (script : Script) (now : UInt64) (action : TransferAction P) : Prop :=
  ∃ output, action.outputs = [output] ∧ output.owner = script.spender now ∧
    (now < script.deadline → ∃ preImage,
      action.metadata.get? (HashLock.claimKey script.lock.hash) = some preImage ∧
        script.lock.isPreImage preImage = true)

/-- An owner lets a transfer spend what it owns: a plain one always, a script when it can be read
and releases it. -/
def Identity.Releases (owner : Identity) (now : UInt64) (action : TransferAction P) : Prop :=
  Script.isScript owner = true → ∃ script, Script.ofIdentity owner = .ok script ∧
    script.Releases now action

/-- A transfer that breaks no rule on a ledger, its signatures and other transfers apart. -/
structure TransferAction.Valid (pp : PublicParameters P) (ledger : Ledger)
    (action : TransferAction P) : Prop where
  wellFormed : action.check = .ok ()
  stored : ∀ input ∈ action.inputs, ledger.state? input.id = some input.token.toBytes
  proved : TransferProof.verify pp action.inputCommitments action.commitments action.proof = .ok ()
  released : ∀ input ∈ action.inputs, input.token.owner.Releases ledger.time action
  held : ∀ output ∈ action.outputs, output.owner.MayHold ledger.time

/-! ## What the rules demand -/

variable {setting : Setting P}

theorem Rule.demands_issue (action : IssueAction P) :
    Demands setting (Rule.issue.check setting action) (action.Valid setting.parameters)
      [action.issuer] [] := by
  refine ((Demands.lift action.check).bind <|
    (Demands.lift (Rule.authorize _ _)).bind <|
    ((Demands.requireSignature action.issuer).inContext _).bind <|
    Demands.lift (IssueProof.verify _ _ _)).congr ?_ rfl rfl
  exact ⟨fun ⟨hc, ha, _, hp⟩ => ⟨hc, ha, hp⟩, fun ⟨hc, ha, hp⟩ => ⟨hc, ha, trivial, hp⟩⟩

/-- Spending an input demands that the ledger holds the token, and spends its id. -/
theorem Rule.demands_spend (input : ActionInput P) :
    Demands setting (Rule.spend setting input)
      (setting.ledger.state? input.id = some input.token.toBytes) [] [input.id] where
  sound {p q} run := by
    simp only [Rule.spend, Task.perform_get_bind] at run
    split at run
    · simp at run
    · next fresh =>
      rw [Task.perform_set_bind] at run
      split at run
      · simp at run
      · next stored hstored =>
        split at run
        · simp at run
        · next same =>
          obtain ⟨-, rfl⟩ := Task.perform_pure.mp run
          refine ⟨by rw [hstored, not_not.mp same], ⟨[], rfl, .nil⟩, rfl, List.nodup_singleton _, ?_⟩
          exact List.disjoint_singleton.mpr fresh
  complete {p q} stored advances := by
    -- the id is put down as spent before the ledger is asked for the token
    have fresh : input.id ∉ p.spent := List.disjoint_singleton.mp advances.disjoint
    refine ⟨{ p with spent := p.spent ++ [input.id] }, ?_⟩
    simp only [Rule.spend, Task.perform_get_bind, if_neg fresh, Task.perform_set_bind, stored,
      ne_eq, not_true_eq_false, if_false]
    rfl

theorem Rule.demands_transferInputs (action : TransferAction P) :
    Demands setting (Rule.transferInputs.check setting action)
      (action.check = .ok () ∧
        ∀ input ∈ action.inputs, setting.ledger.state? input.id = some input.token.toBytes)
      [] action.inputIds := by
  refine ((Demands.lift action.check).bind <|
    Demands.forM fun input _ => Rule.demands_spend input).congr Iff.rfl ?_ List.map_eq_flatMap.symm
  simp

omit [Suite P] in
/-- An input demands a signature of who is entitled to it. -/
theorem Rule.demands_inputSignature (input : ActionInput P) :
    Demands setting
      (do
        let signer ← liftM (input.token.owner.signerAt setting.ledger.time)
        (setting.requireSignature signer).inContext
          s!"input {input.id.text} is not signed by its owner")
      (∃ signer, input.token.owner.signerAt setting.ledger.time = .ok signer)
      [input.token.owner.entitledAt setting.ledger.time] [] := by
  cases hsigner : input.token.owner.signerAt setting.ledger.time with
  | error e =>
    refine ⟨fun run => ?_, fun ⟨_, h⟩ => nomatch h⟩
    obtain ⟨_, _, lifted, -⟩ := Task.perform_bind.mp run
    exact nomatch (Task.perform_lift.mp lifted).1
  | ok signer =>
    rw [Identity.entitledAt_of_signerAt hsigner]
    exact ((Demands.requireSignature signer).inContext _).congr
      ⟨fun _ => ⟨signer, rfl⟩, fun _ => trivial⟩ rfl rfl

omit [Suite P] in
theorem Rule.demands_transferSignatures (action : TransferAction P) :
    Demands setting (Rule.transferSignatures.check setting action)
      (∀ input ∈ action.inputs, Script.isScript input.token.owner = true →
        ∃ script, Script.ofIdentity input.token.owner = .ok script)
      (action.inputs.map (·.token.owner.entitledAt setting.ledger.time) ++ action.extraSigners)
      [] := by
  refine ((Demands.forM fun input _ => Rule.demands_inputSignature input).bind
    (Demands.forM fun entry _ => (Demands.requireSignature entry.2).inContext _)).congr ?_ ?_ ?_
  · simp only [Identity.exists_signerAt_iff, implies_true, and_true]
  · rw [← List.map_eq_flatMap, flatMap_withPositions _ fun signer => [signer], List.flatMap_singleton']
  · simp

theorem Rule.demands_transferProof (action : TransferAction P) :
    Demands setting (Rule.transferProof.check setting action)
      (TransferProof.verify setting.parameters action.inputCommitments action.commitments
        action.proof = .ok ()) [] [] :=
  Demands.lift _

omit [Suite P] in
/-- The claim of a script holds when the recipient gets the output and a pre-image is disclosed. -/
theorem Rule.checkClaim_eq_ok_iff {script : Script} {id : TokenId} {output : Token P}
    {metadata : SortedMap String Bytes} :
    Rule.checkClaim script id output metadata = .ok () ↔
      output.owner = script.recipient ∧ ∃ preImage,
        metadata.get? (HashLock.claimKey script.lock.hash) = some preImage ∧
          script.lock.isPreImage preImage = true := by
  unfold Rule.checkClaim
  by_cases owned : output.owner = script.recipient
  · simp only [owned, ne_eq, not_true_eq_false, if_false, true_and]
    cases metadata.get? (HashLock.claimKey script.lock.hash) with
    | none => exact ⟨nofun, fun ⟨_, h, _⟩ => nomatch h⟩
    | some preImage =>
      simp only [Option.some.injEq, exists_eq_left']
      cases script.lock.isPreImage preImage with
      | false => exact ⟨nofun, nofun⟩
      | true => exact ⟨fun _ => rfl, fun _ => rfl⟩
  · simp only [owned, ne_eq, not_false_eq_true, if_true, false_and, iff_false]
    exact nofun

omit [Suite P] in
/-- A script with one output to release demands that it does. -/
theorem Rule.demands_release {action : TransferAction P} {output : Token P}
    (single : action.outputs = [output]) (script : Script) (id : TokenId) :
    Demands setting
      (if setting.ledger.time < script.deadline then do
        checkClaim script id output action.metadata
        setting.debug s!"claim of input {id.text} before deadline {script.deadline}"
      else do
        checkReclaim script id output
        setting.debug s!"reclaim of input {id.text} after deadline {script.deadline}")
      (script.Releases setting.ledger.time action) [] [] := by
  have releases : script.Releases setting.ledger.time action ↔
      output.owner = script.spender setting.ledger.time ∧
        (setting.ledger.time < script.deadline → ∃ preImage,
          action.metadata.get? (HashLock.claimKey script.lock.hash) = some preImage ∧
            script.lock.isPreImage preImage = true) := by
    simp [Script.Releases, single]
  rw [releases]
  by_cases early : setting.ledger.time < script.deadline
  · simp only [if_pos early]
    refine ((Demands.lift _).bind (Demands.debug _)).congr ?_ rfl rfl
    rw [Rule.checkClaim_eq_ok_iff]
    simp [Script.spender, early]
  · simp only [if_neg early]
    refine ((Demands.lift _).bind (Demands.debug _)).congr ?_ rfl rfl
    simp [checkReclaim, Script.spender, early]

omit [Suite P] in
/-- An input demands that the script that owns it, if one does, releases it. -/
theorem Rule.demands_unlock (action : TransferAction P) (input : ActionInput P) :
    Demands setting (Rule.unlock setting action input)
      (input.token.owner.Releases setting.ledger.time action) [] [] := by
  unfold Rule.unlock Identity.Releases
  cases Script.isScript input.token.owner with
  | false => exact Demands.pure.congr (by simp) rfl rfl
  | true =>
    cases Script.ofIdentity input.token.owner with
    | error e =>
      refine ⟨fun run => ?_, fun h => by obtain ⟨_, h, -⟩ := h rfl; exact nomatch h⟩
      obtain ⟨_, _, lifted, -⟩ := Task.perform_bind.mp run
      exact nomatch (Task.perform_lift.mp lifted).1
    | ok script =>
      have fact : (true = true → ∃ s, Except.ok (ε := Error) script = .ok s ∧
          s.Releases setting.ledger.time action) ↔ script.Releases setting.ledger.time action :=
        ⟨fun h => by obtain ⟨_, hs, h⟩ := h rfl; cases hs; exact h, fun h _ => ⟨_, rfl, h⟩⟩
      rw [fact, if_pos rfl, Task.lift_ok_bind]
      split
      · next output single => exact Rule.demands_release single script input.id
      · next several =>
        refine (Demands.throw _).congr ?_ rfl rfl
        exact ⟨nofun, fun ⟨output, single, _⟩ => several output single⟩

omit [Suite P] in
theorem Rule.lock_eq_ok_iff {now : UInt64} {index : Nat} {output : Token P} :
    Rule.lock now index output = .ok () ↔ output.owner.MayHold now := by
  unfold Rule.lock Identity.MayHold
  cases Script.isScript output.owner with
  | false => exact ⟨fun _ => nofun, fun _ => rfl⟩
  | true =>
    rw [if_pos rfl, Outcome.bind_eq_ok_iff]
    simp only [Outcome.inContext_eq_ok_iff, forall_const]

omit [Suite P] in
theorem Rule.demands_transferScripts (action : TransferAction P) :
    Demands setting (Rule.transferScripts.check setting action)
      ((∀ input ∈ action.inputs, input.token.owner.Releases setting.ledger.time action) ∧
        ∀ output ∈ action.outputs, output.owner.MayHold setting.ledger.time) [] [] := by
  refine ((Demands.forM fun input _ => Rule.demands_unlock action input).bind
    (Demands.forM fun entry _ => Demands.lift (Rule.lock _ entry.1 entry.2))).congr
    (and_congr_right fun _ => ?_) ?_ ?_
  · simp only [Rule.lock_eq_ok_iff]
    exact forall_mem_withPositions (Q := fun output : Token P => output.owner.MayHold _) _
  · simp
  · simp

/-- What holds of each rule for transfers holds of all. -/
theorem Rule.forall_mem_forTransfers {Q : Rule P (TransferAction P) → Prop} :
    (∀ rule ∈ forTransfers, Q rule) ↔
      Q transferInputs ∧ Q transferSignatures ∧ Q transferProof ∧ Q transferScripts := by
  simp only [forTransfers, List.forall_mem_cons, List.not_mem_nil, false_implies, implies_true,
    and_true]

/-- An issue demands the signature of its issuer. -/
theorem Validator.demands_issue (what : String) (action : IssueAction P) :
    Demands setting (Validator.checkAction setting what Rule.forIssues action)
      (action.Valid setting.parameters) [action.issuer] [] :=
  (((Rule.demands_issue action).inContext _).bind Demands.pure).congr (and_iff_left trivial) rfl rfl

/-- A transfer demands the signatures of those entitled to its inputs and of its extra signers,
and spends its inputs. -/
theorem Validator.demands_transfer (what : String) (action : TransferAction P) :
    Demands setting (Validator.checkAction setting what Rule.forTransfers action)
      (action.Valid setting.parameters setting.ledger)
      (action.inputs.map (·.token.owner.entitledAt setting.ledger.time) ++ action.extraSigners)
      action.inputIds := by
  refine (((Rule.demands_transferInputs action).inContext _).bind <|
    ((Rule.demands_transferSignatures action).inContext _).bind <|
    ((Rule.demands_transferProof action).inContext _).bind <|
    ((Rule.demands_transferScripts action).inContext _).bind Demands.pure).congr ?_ ?_ ?_
  · -- that a script can be read is asked twice, to find its signer and to find what it releases
    refine ⟨fun ⟨⟨wellFormed, stored⟩, _, proved, ⟨released, held⟩, _⟩ =>
      ⟨wellFormed, stored, proved, released, held⟩, fun valid => ?_⟩
    refine ⟨⟨valid.wellFormed, valid.stored⟩, fun input mem isScript => ?_, valid.proved,
      ⟨valid.released, valid.held⟩, trivial⟩
    obtain ⟨script, read, -⟩ := valid.released input mem isScript
    exact ⟨script, read⟩
  · simp only [List.nil_append, List.append_nil]
  · simp only [List.append_nil]

omit [Suite P] in
/-- Demands of the actions of one kind. -/
theorem Validator.demands_actions {α : Type} {rules : List (Rule P α)} {fact : α → Prop}
    {signers : α → List Identity} {ids : α → List TokenId} (kind : String) (actions : List α)
    (h : ∀ what action, Demands setting (Validator.checkAction setting what rules action)
      (fact action) (signers action) (ids action)) :
    Demands setting (Validator.checkActions setting kind rules actions)
      (∀ action ∈ actions, fact action) (actions.flatMap signers) (actions.flatMap ids) := by
  unfold Validator.checkActions
  refine (Demands.forM fun entry _ =>
    (h _ entry.2).bind (Demands.debug _)).congr ?_ ?_ ?_
  · simp only [and_true]
    exact forall_mem_withPositions _
  · simp only [List.append_nil]
    exact flatMap_withPositions _ _
  · simp only [List.append_nil]
    exact flatMap_withPositions _ _

end

end ConfidentialToken
