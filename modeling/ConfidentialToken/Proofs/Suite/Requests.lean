import ConfidentialToken.Proofs.Ledger.Run
import ConfidentialToken.Proofs.Parameters
import ConfidentialToken.Proofs.Suite.Plain
import ConfidentialToken.Proofs.Wire.Identities
import ConfidentialToken.Proofs.Wire.Proofs
import ConfidentialToken.Proofs.ZeroKnowledge.Completeness

/-!
# Requests of the plain suite

Issues and transfers with proofs that verify, for any outputs and any token that is passed on as it is,
and the requests that hold one of them. They are accepted under the conditions that the rules state, so
what is shown of accepted requests is shown of something. A swap that is issued and reclaimed is
followed through a run, in which a token comes and goes.
-/

namespace ConfidentialToken.Plain

/-! ## Proofs -/

/-- Three different generators, none of them neutral. -/
def generators : Generators Plain := ⟨⟨2⟩, ⟨3⟩, ⟨1⟩⟩

/-- Parameters of the plain suite, with values of 64 bits, for any issuer and without auditors. -/
def parameters : PublicParameters Plain :=
  ⟨parametersLabel, .ristretto255, generators, ⟨64, 6⟩, [], []⟩

set_option maxRecDepth 2048 in
theorem made_parameters : parameters.Made :=
  .of_check ⟨by decide, ⟨by decide, nofun⟩, ⟨by decide, nofun⟩⟩ (by decide) (by decide)

/-- A blinding factor that makes a type commitment the blinding base. -/
def typeBlinding (tokenType : String) : Scalar := 1 - Scalar.hash (Bytes.ofText tokenType) * 2

theorem commitType_typeBlinding (tokenType : String) :
    (generators.commitType tokenType (typeBlinding tokenType)).isIdentity = false := by
  have point : (generators.commitType tokenType (typeBlinding tokenType)).point = ⟨1⟩ := by
    refine eq_of_log ?_
    show Scalar.hash (Bytes.ofText tokenType) * 2 +
      ((1 - Scalar.hash (Bytes.ofText tokenType) * 2) * 1 + 0) = 1
    rw [mul_one, add_zero, add_sub_cancel]
  refine decide_eq_false fun same => ?_
  have := congrArg (fun c : Commitment Plain => c.point.log) same
  rw [point] at this
  exact absurd this (by decide)

/-- A proof that tokens are of the type with the empty name. -/
def sameTypeProof (tokens : List (Commitment Plain)) : SameTypeProof Plain :=
  .prove generators tokens "" (typeBlinding "") fun _ => 0

theorem verify_sameTypeProof (tokens : List (Commitment Plain)) :
    (sameTypeProof tokens).verify generators tokens = .ok () :=
  SameTypeProof.verify_prove tokens (fun _ => 0) (commitType_typeBlinding "")

/-- As many range proofs as there are commitments are accepted. -/
theorem verify_ranges (values : List (Commitment Plain)) (g : Generators Plain)
    (capacity bits : Nat) :
    RangeProofs.verify ⟨List.replicate values.length (rangeProof 0)⟩ values g capacity bits = .ok () := by
  have each : ∀ (index : Nat), RangeProofs.verifyFrom g capacity bits index
      (List.replicate values.length (rangeProof 0)) values = .ok () := by
    induction values with
    | nil => exact fun _ => rfl
    | cons value rest ih => exact fun index => ih (index + 1)
  unfold RangeProofs.verify
  rw [if_neg (by simp)]
  exact each 0

/-- The proof of an issue. -/
def issueProof (tokens : List (Commitment Plain)) : IssueProof Plain :=
  ⟨sameTypeProof tokens, ⟨List.replicate tokens.length (rangeProof 0)⟩⟩

theorem verify_issueProof {tokens : List (Commitment Plain)} (some : tokens ≠ [])
    (few : tokens.length < Wire.lengthBound) :
    IssueProof.verify parameters tokens (IssueProof.codec.encode (issueProof tokens)) = .ok () := by
  refine IssueProof.verify_eq_ok_iff.mpr ⟨some, issueProof tokens, ?_, ?_, ?_⟩
  · refine (IssueProof.roundTrips ?_).read_encode
    rwa [RangeProofs.Fits, issueProof, List.length_replicate]
  · exact verify_sameTypeProof tokens
  · have verified := verify_ranges (tokens.map (· - (sameTypeProof tokens).typeCommitment))
      generators 64 64
    rw [List.length_map] at verified
    exact verified

/-- A commitment balances itself. -/
theorem balance_self (c typeCommitment : Commitment Plain) :
    PointGroup.scale 0 generators.blindingBase =
      (TransferProof.balanceCommitment [c] [c] typeCommitment).point := by
  have neutral : PointGroup.scale 0 generators.blindingBase = (0 : Plain) :=
    map_zero (PointGroup.Linear.multiples generators.blindingBase)
  rw [neutral]
  exact (sub_self (Commitment.sum ([c].map (· - typeCommitment))).point).symm

/-- The proof of a transfer of one commitment to itself. -/
def transferProof (c : Commitment Plain) : TransferProof Plain where
  sameType := sameTypeProof [c, c]
  balance :=
    let typeCommitment := (sameTypeProof [c, c]).typeCommitment
    let challenge := ZeroValueProof.challengeOf
      (TransferProof.balanceContext [c] [c] typeCommitment)
      (TransferProof.balanceCommitment [c] [c] typeCommitment)
      (PointGroup.scale 0 generators.blindingBase)
    ⟨challenge, 0 + challenge * 0⟩
  ranges := ⟨List.replicate 2 (rangeProof 0)⟩

theorem verify_transferProof (c : Commitment Plain) :
    TransferProof.verify parameters [c] [c] (TransferProof.codec.encode (transferProof c)) =
      .ok () := by
  refine TransferProof.verify_eq_ok_iff.mpr ⟨⟨nofun, nofun⟩, transferProof c, ?_, ?_, ?_, ?_⟩
  · refine (TransferProof.roundTrips ?_).read_encode
    show (List.replicate 2 (rangeProof 0)).length < Wire.lengthBound
    decide
  · exact verify_sameTypeProof [c, c]
  · exact ZeroValueProof.verify_of_opens (balance_self c _) _ 0
  · exact verify_ranges [c - _, c - _] generators 64 64

/-! ## Actions -/

/-- An issue of tokens. -/
def issue (issuer : Identity) (outputs : List (Token Plain)) : IssueAction Plain :=
  ⟨issuer, outputs, IssueProof.codec.encode (issueProof (outputs.map Token.data)), .empty⟩

/-- An issue of some tokens, all of them owned, breaks no rule. -/
theorem issue_valid {issuer : Identity} {outputs : List (Token Plain)}
    (named : issuer.isNone = false) (some : outputs ≠ []) (few : outputs.length ≤ maxOutputs)
    (owned : ∀ output ∈ outputs, output.isRedeemed = false) :
    (issue issuer outputs).Valid parameters where
  wellFormed := IssueAction.check_eq_ok_iff.mpr ⟨named, ⟨some, few⟩, owned⟩
  authorized := rfl
  proved := by
    have short : (outputs.map Token.data).length < Wire.lengthBound := by
      rw [List.length_map]
      exact Nat.lt_of_le_of_lt few (by decide)
    exact verify_issueProof (mt List.map_eq_nil_iff.mp some) short

/-- A transfer that passes a token on to another owner. -/
def passOn (id : TokenId) (token : Token Plain) (owner : Identity) : TransferAction Plain :=
  ⟨[⟨id, token⟩], [⟨owner, token.data⟩], TransferProof.codec.encode (transferProof token.data),
    .empty, []⟩

/-- Passing on a stored token, whatever the metadata is, breaks no rule if its owner lets it go and the other
may hold it. -/
theorem passOn_valid {ledger : Ledger} {id : TokenId} {token : Token Plain} {owner : Identity}
    {metadata : SortedMap String Bytes} (stored : ledger.state? id = some token.toBytes)
    (owned : token.isRedeemed = false)
    (released : token.owner.Releases ledger.time { passOn id token owner with metadata })
    (held : owner.MayHold ledger.time) :
    TransferAction.Valid parameters ledger { passOn id token owner with metadata } where
  wellFormed := by
    have one : 1 ≤ maxOutputs := by decide
    exact TransferAction.check_eq_ok_iff.mpr ⟨nofun, one, ⟨nofun, one⟩,
      ⟨List.nodup_singleton id, List.forall_mem_singleton.mpr owned⟩, nofun⟩
  stored := List.forall_mem_singleton.mpr stored
  proved := verify_transferProof token.data
  released := List.forall_mem_singleton.mpr released
  held := List.forall_mem_singleton.mpr held

/-! ## Requests -/

section

variable {ledger : Ledger} {anchor : String} {message signature : Bytes}

/-- The request with one issue and a signature. -/
def requestIssue (action : IssueAction Plain) (signature : Bytes) : TokenRequest :=
  ⟨[action.toBytes], [], [signature], []⟩

/-- A request with one valid issue is acceptable when its issuer signed. -/
theorem requestIssue_acceptable {action : IssueAction Plain} (fits : action.Fits)
    (valid : action.Valid parameters)
    (written : (requestIssue action signature).messageToSign anchor = .ok message)
    (signed : action.issuer.verify Plain message signature = .ok ()) :
    (requestIssue action signature).Acceptable parameters ledger anchor message ⟨[action], []⟩ where
  written := written
  audited := nofun
  read := TokenRequest.readActions_eq_ok_iff.mpr
    ⟨.cons (IssueAction.ofBytes_toBytes fits) .nil, .nil⟩
  issues := List.forall_mem_singleton.mpr valid
  transfers := nofun
  spentOnce := List.nodup_nil
  signed := .cons signed .nil

/-- The request with one transfer and a signature. -/
def requestTransfer (action : TransferAction Plain) (signature : Bytes) : TokenRequest :=
  ⟨[], [action.toBytes], [signature], []⟩

/-- A request that passes a token on is acceptable when the party entitled to the token signed. -/
theorem requestTransfer_acceptable {id : TokenId} {token : Token Plain} {owner : Identity}
    {metadata : SortedMap String Bytes} {action : TransferAction Plain}
    (passes : action = { passOn id token owner with metadata }) (fits : action.Fits)
    (valid : action.Valid parameters ledger)
    (written : (requestTransfer action signature).messageToSign anchor = .ok message)
    (signed : (token.owner.entitledAt ledger.time).verify Plain message signature = .ok ()) :
    (requestTransfer action signature).Acceptable parameters ledger anchor message
      ⟨[], [action]⟩ where
  written := written
  audited := nofun
  read := TokenRequest.readActions_eq_ok_iff.mpr
    ⟨.nil, .cons (TransferAction.ofBytes_toBytes fits) .nil⟩
  issues := nofun
  transfers := List.forall_mem_singleton.mpr valid
  spentOnce := passes ▸ List.nodup_singleton id
  signed := passes ▸ .cons signed .nil

/-- A party that shows its enrollment id verifies what is signed with its seed, and nothing else. -/
theorem verify_eq_ok_iff {enrollmentId : String} (seed : Block 32) (handle : Bytes)
    (id : (Bytes.ofText enrollmentId).length < Wire.lengthBound)
    (fits : Identity.Fits ⟨X509Identity.codec.encode ⟨enrollmentId, seed⟩⟩) (message : Bytes) :
    (Credential.x509 Plain enrollmentId seed handle).identity.verify Plain message signature =
      .ok () ↔ signature = Suite.sign Plain seed message := by
  have key : (Credential.x509 Plain enrollmentId seed handle).identity.verifyingKey Plain =
      .ok seed := Identity.verifyingKey_x509 Plain id fits
  unfold Identity.verify
  rw [key]
  refine Outcome.mapError_eq_ok_iff.trans ?_
  show (if signature = Suite.sign Plain seed message then Except.ok ()
    else .error SignatureFault.mismatch) = .ok () ↔ _
  split
  · next same => exact iff_of_true rfl same
  · next differ => exact iff_of_false nofun differ

theorem verify_sign {enrollmentId : String} (seed : Block 32) (handle : Bytes)
    (id : (Bytes.ofText enrollmentId).length < Wire.lengthBound)
    (fits : Identity.Fits ⟨X509Identity.codec.encode ⟨enrollmentId, seed⟩⟩) (message : Bytes) :
    (Credential.x509 Plain enrollmentId seed handle).identity.verify Plain message
      (Suite.sign Plain seed message) = .ok () :=
  (verify_eq_ok_iff seed handle id fits message).mpr rfl

end

/-! ## A swap that is reclaimed -/

/-- The sender of the swap. -/
def sender : Credential := .x509 Plain "alice" default []

/-- The recipient of the swap. -/
def recipient : Credential := .x509 Plain "bob" (.ofNat 32 1) []

/-- A swap that the recipient can claim before time 10. -/
def swap : Script := ⟨sender.identity, recipient.identity, 10, ⟨[1], .sha256, .raw⟩⟩

/-- A token that the swap owns. -/
def locked : Token Plain := ⟨swap.toIdentity, ⟨⟨5⟩⟩⟩

/-- Where the token lies after it was issued. -/
def lockedId : TokenId := ⟨"mint", 0⟩

/-- What is signed to issue the token. -/
def mintMessage : Bytes :=
  TokenRequest.signedContent.encode ([(issue sender.identity [locked]).toBytes], [], "mint")

/-- The request that issues the token. -/
def mint : TokenRequest :=
  requestIssue (issue sender.identity [locked]) (Suite.sign Plain default mintMessage)

/-- The transfer that gives the token back to the sender. -/
def giveBack : TransferAction Plain := passOn lockedId locked sender.identity

/-- What is signed to reclaim the token. -/
def reclaimMessage : Bytes :=
  TokenRequest.signedContent.encode ([], [giveBack.toBytes], "reclaim")

/-- The request that reclaims the token. -/
def reclaim : TokenRequest := requestTransfer giveBack (Suite.sign Plain default reclaimMessage)

set_option maxRecDepth 4096 in
theorem swap_fits : swap.Fits := ⟨by decide, by decide, by decide, by decide⟩

set_option maxRecDepth 2048 in
theorem rawSender_fits : Identity.Fits ⟨X509Identity.codec.encode ⟨"alice", default⟩⟩ := by decide

theorem verify_sender (message : Bytes) :
    sender.identity.verify Plain message (Suite.sign Plain default message) = .ok () :=
  verify_sign default [] (by decide) rawSender_fits message

theorem isScript_sender : Script.isScript sender.identity = false :=
  Script.isScript_wrap .x509 rawSender_fits

set_option maxRecDepth 2048 in
theorem rawRecipient_fits : Identity.Fits ⟨X509Identity.codec.encode ⟨"bob", .ofNat 32 1⟩⟩ := by
  decide

theorem verify_recipient (message : Bytes) :
    recipient.identity.verify Plain message (Suite.sign Plain (.ofNat 32 1) message) = .ok () :=
  verify_sign (.ofNat 32 1) [] (by decide) rawRecipient_fits message

theorem isScript_recipient : Script.isScript recipient.identity = false :=
  Script.isScript_wrap .x509 rawRecipient_fits

theorem isScript_locked : Script.isScript locked.owner = true :=
  Script.isScript_wrap .script swap_fits.raw

theorem ofIdentity_locked : Script.ofIdentity locked.owner = .ok swap :=
  Script.ofIdentity_toIdentity swap_fits

set_option maxRecDepth 4096 in
theorem locked_fits : locked.Fits := by decide

theorem ofBytes_locked : Token.ofBytes locked.toBytes = .ok locked :=
  Token.ofBytes_toBytes locked_fits

/-- A ledger that holds the token and nothing else, at a time. -/
def lockedAt (time : UInt64) : Ledger :=
  (Ledger.empty time).update "mint" [] [(lockedId, locked.toBytes)]

theorem state?_lockedAt (time : UInt64) :
    (lockedAt time).state? lockedId = some locked.toBytes :=
  SortedMap.get?_insert_self

set_option maxRecDepth 2048 in
theorem issue_fits : (issue sender.identity [locked]).Fits where
  issuer := swap_fits.sender
  count := by decide
  outputs := List.forall_mem_singleton.mpr locked_fits
  proof := by decide
  metadata := by decide

set_option maxRecDepth 4096 in
theorem giveBack_fits : giveBack.Fits where
  countInputs := by decide
  inputs := List.forall_mem_singleton.mpr ⟨by decide, locked_fits⟩
  countOutputs := by decide
  outputs := List.forall_mem_singleton.mpr swap_fits.sender
  proof := by decide
  metadata := by decide
  countExtraSigners := by decide
  extraSigners := nofun

/-- The sender may issue tokens anywhere, if what is signed can be written. -/
theorem senderIssue_acceptable (ledger : Ledger) {anchor : String} {tokens : List (Token Plain)}
    {message : Bytes} (fits : (issue sender.identity tokens).Fits) (some : tokens ≠ [])
    (few : tokens.length ≤ maxOutputs) (owned : ∀ token ∈ tokens, token.isRedeemed = false)
    (content : message =
      TokenRequest.signedContent.encode ([(issue sender.identity tokens).toBytes], [], anchor))
    (short : message.length ≤ Wire.sizeLimit) :
    (requestIssue (issue sender.identity tokens) (Suite.sign Plain default message)).Acceptable
      parameters ledger anchor message ⟨[issue sender.identity tokens], []⟩ := by
  have named : sender.identity.isNone = false := by decide
  exact requestIssue_acceptable fits (issue_valid named some few owned)
    (TokenRequest.messageToSign_eq_ok_iff.mpr ⟨content, short⟩) (verify_sender message)

set_option maxRecDepth 4096 in
/-- The issue of the token is acceptable anywhere. -/
theorem mint_acceptable (ledger : Ledger) :
    mint.Acceptable parameters ledger "mint" mintMessage ⟨[issue sender.identity [locked]], []⟩ :=
  senderIssue_acceptable ledger issue_fits nofun (by decide) (by decide) rfl (by decide)

set_option maxRecDepth 8192 in
theorem length_reclaimMessage : reclaimMessage.length ≤ Wire.sizeLimit := by decide

theorem messageToSign_reclaim : reclaim.messageToSign "reclaim" = .ok reclaimMessage :=
  TokenRequest.messageToSign_eq_ok_iff.mpr ⟨rfl, length_reclaimMessage⟩

/-- The reclaim is acceptable from the deadline on, where the token lies. -/
theorem reclaim_acceptable {ledger : Ledger} (stored : ledger.state? lockedId = some locked.toBytes)
    (late : ¬ledger.time < 10) :
    reclaim.Acceptable parameters ledger "reclaim" reclaimMessage ⟨[], [giveBack]⟩ := by
  have spender : swap.spender ledger.time = sender.identity := if_neg late
  have owned : locked.isRedeemed = false := by decide
  have released : locked.owner.Releases ledger.time giveBack := by
    intro _
    refine ⟨swap, ofIdentity_locked, ⟨sender.identity, locked.data⟩, rfl, spender.symm, ?_⟩
    exact fun early => absurd early late
  have held : sender.identity.MayHold ledger.time := by
    intro isScript
    exact absurd (isScript_sender.symm.trans isScript) nofun
  refine requestTransfer_acceptable rfl giveBack_fits (passOn_valid stored owned released held)
    messageToSign_reclaim ?_
  rw [Identity.entitledAt_script isScript_locked ofIdentity_locked, spender]
  exact verify_sender reclaimMessage

/-! ## A token that the sender owns -/

/-- A token of the sender of the swap. -/
def cash : Token Plain := ⟨sender.identity, ⟨⟨7⟩⟩⟩

/-- Where the token lies when it was issued after the one of the swap. -/
def cashId : TokenId := ⟨"mint", 1⟩

/-! ## The run of the swap -/

/-- The issue of the token, with its action. -/
def minted : Applied Plain := ⟨parameters, "mint", mint, ⟨[issue sender.identity [locked]], []⟩⟩

/-- The reclaim of the token, with its action. -/
def reclaimed : Applied Plain := ⟨parameters, "reclaim", reclaim, ⟨[], [giveBack]⟩⟩

/-- The token is issued at time 0, and time 10 comes. -/
def mintAndWait : List (Event Plain) := [.submit parameters .default "mint" mint, .setTime 10]

/-- The sender submits the reclaim. -/
def submitReclaim : Event Plain := .submit parameters .default "reclaim" reclaim

theorem after_mintAndWait :
    Run.after 0 mintAndWait = ⟨(minted.result (.empty 0)).setTime 10, [minted]⟩ := by
  have through : minted.GoesThrough (.empty 0) mintMessage :=
    ⟨mint_acceptable (.empty 0), List.not_mem_nil, nofun, List.nodup_nil⟩
  show ((Run.start 0).step (.submit minted.parameters .default minted.anchor minted.request)).step
    (.setTime 10) = _
  rw [Run.step_submit through]
  rfl

/-- The token lies on the ledger where it was issued. -/
theorem state?_lockedId :
    (Run.after 0 mintAndWait).ledger.state? lockedId = some locked.toBytes := by
  rw [after_mintAndWait]
  exact SortedMap.get?_insert_self

/-- The reclaim goes through. -/
theorem step_submitReclaim : (Run.after 0 mintAndWait).step submitReclaim =
    ⟨reclaimed.result (Run.after 0 mintAndWait).ledger, [minted, reclaimed]⟩ := by
  have stored := state?_lockedId
  have known : (Run.after 0 mintAndWait).ledger.history.map LedgerEvent.anchor = ["mint"] := by
    rw [after_mintAndWait]
    rfl
  have late : ¬(Run.after 0 mintAndWait).ledger.time < 10 := by
    rw [after_mintAndWait]
    decide
  have through : reclaimed.GoesThrough (Run.after 0 mintAndWait).ledger reclaimMessage := by
    refine ⟨reclaim_acceptable stored late, ?_, ?_, List.nodup_singleton lockedId⟩
    · rw [known]
      decide
    · exact List.forall_mem_singleton.mpr (stored ▸ nofun)
  have before : (Run.after 0 mintAndWait).applied = [minted] := by rw [after_mintAndWait]
  have submitted := Run.step_submit through .default
  rw [before] at submitted
  exact submitted

/-- The token is gone once it is reclaimed. -/
theorem state?_lockedId_reclaimed :
    ((Run.after 0 mintAndWait).step submitReclaim).ledger.state? lockedId = none := by
  rw [step_submitReclaim]
  exact Ledger.state?_update_eq_none (List.mem_singleton_self lockedId) (by decide)

end ConfidentialToken.Plain
