import ConfidentialToken.Proofs.Ledger.Consistent
import ConfidentialToken.Proofs.Suite.Requests
import Mathlib.Algebra.BigOperators.Group.List.Basic
import Mathlib.Algebra.Order.Ring.Int
import Mathlib.Tactic.Linarith

/-!
# Conservation of value

What commitments hide is given as an assignment of a type and a value to each, and the proofs of a run
are taken to be sound for it: an accepted issue proof is about outputs of one type, an accepted transfer
proof about inputs and outputs of one type and of equal total value. Then nothing but issues makes value
and nothing but redeeming takes it away, type by type, over any run. The accounting is that of the
ledger; that the proofs are sound is not shown here.
-/

namespace ConfidentialToken

/-! ## Totals -/

section

variable {P : Type} (opening : Commitment P → Scalar × ℤ) (tokenType : Scalar)

/-- The value of a commitment in tokens of a type. -/
def Commitment.worth (c : Commitment P) : ℤ :=
  if (opening c).1 = tokenType then (opening c).2 else 0

/-- The value of tokens in tokens of a type. -/
def Token.total (tokens : List (Token P)) : ℤ :=
  (tokens.map fun token => token.data.worth opening tokenType).sum

theorem Token.total_append (tokens others : List (Token P)) :
    total opening tokenType (tokens ++ others) =
      total opening tokenType tokens + total opening tokenType others := by
  simp only [total, List.map_append, List.sum_append]

theorem Token.total_perm {tokens others : List (Token P)} (perm : tokens.Perm others) :
    total opening tokenType tokens = total opening tokenType others :=
  (perm.map _).sum_eq

/-- The tokens with a property and those without are worth all of them. -/
theorem Token.total_filter_add (p : Token P → Bool) (tokens : List (Token P)) :
    total opening tokenType (tokens.filter p) +
      total opening tokenType (tokens.filter fun token => !p token) =
        total opening tokenType tokens := by
  rw [← total_append]
  exact total_perm opening tokenType (List.filter_append_perm p tokens)

/-- Tokens of one type are worth their values in that type, and nothing in others. -/
theorem Token.total_of_oneType {tokens : List (Token P)} {common : Scalar}
    (oneType : ∀ token ∈ tokens, (opening token.data).1 = common) :
    total opening tokenType tokens =
      if common = tokenType then (tokens.map fun token => (opening token.data).2).sum else 0 := by
  induction tokens with
  | nil => simp [total]
  | cons token rest ih =>
    obtain ⟨first, rest'⟩ := List.forall_mem_cons.mp oneType
    have split : total opening tokenType (token :: rest) =
        token.data.worth opening tokenType + total opening tokenType rest := List.sum_cons
    rw [split, ih rest', Commitment.worth, first]
    split <;> simp

end

variable {P : Type} [Suite P]

/-- The unspent tokens that can be read, in order of their ids. -/
def Ledger.unspentTokens (P : Type) [PointGroup P] (ledger : Ledger) : List (Token P) :=
  ledger.unspent.filterMap ledger.token?

/-- The tokens that the issues of a submission make. -/
def Applied.issued (applied : Applied P) : List (Token P) :=
  applied.actions.issues.flatMap IssueAction.outputs

/-- The tokens that the transfers of a submission spend. -/
def Applied.inputs (applied : Applied P) : List (Token P) :=
  (applied.actions.transfers.flatMap TransferAction.inputs).map ActionInput.token

/-- The tokens that the transfers of a submission make, the redeemed with them. -/
def Applied.transferred (applied : Applied P) : List (Token P) :=
  applied.actions.transfers.flatMap TransferAction.outputs

/-- The proofs of submissions are sound for an opening of commitments: those of issues show one type,
those of transfers one type and balance. -/
structure SoundFor (opening : Commitment P → Scalar × ℤ) (submissions : List (Applied P)) : Prop where
  issues : ∀ applied ∈ submissions, ∀ issue ∈ applied.actions.issues,
    IssueProof.verify applied.parameters issue.commitments issue.proof = .ok () →
      ∃ common, ∀ c ∈ issue.commitments, (opening c).1 = common
  transfers : ∀ applied ∈ submissions, ∀ transfer ∈ applied.actions.transfers,
    TransferProof.verify applied.parameters transfer.inputCommitments transfer.commitments
        transfer.proof = .ok () →
      (∃ common, ∀ c ∈ transfer.inputCommitments ++ transfer.commitments,
        (opening c).1 = common) ∧
      (transfer.inputCommitments.map fun c => (opening c).2).sum =
        (transfer.commitments.map fun c => (opening c).2).sum

/-! ## One submission -/

/-- The tokens of entries, as far as they can be read. -/
private def readEntries (entries : List (TokenId × Bytes)) : List (Token P) :=
  entries.filterMap fun entry => (Token.ofBytes entry.2).toOption

private theorem readEntries_append (entries others : List (TokenId × Bytes)) :
    readEntries (P := P) (entries ++ others) = readEntries entries ++ readEntries others :=
  List.filterMap_append

private theorem unspentTokens_eq (ledger : Ledger) :
    ledger.unspentTokens P = readEntries ledger.tokens.entries := by
  unfold Ledger.unspentTokens Ledger.unspent SortedMap.keys readEntries
  rw [List.filterMap_map]
  refine List.filterMap_congr fun entry mem => ?_
  have there : ledger.state? entry.1 = some entry.2 := SortedMap.get?_eq_some_iff.mpr mem
  simp only [Function.comp_apply, Ledger.token?, there]
  rfl

variable [PointGroup.LawfulEncoding P]

/-- Entries that hold the bytes of tokens read as the tokens. -/
private theorem readEntries_map {α : Type} (items : List α) (id : α → TokenId) (token : α → Token P)
    (fits : ∀ item ∈ items, (token item).Fits) :
    readEntries (items.map fun item => (id item, (token item).toBytes)) = items.map token := by
  unfold readEntries
  rw [List.filterMap_map, ← List.filterMap_eq_map]
  refine List.filterMap_congr fun item mem => ?_
  simp only [Function.comp_apply, Token.ofBytes_toBytes (fits item mem)]
  rfl

variable {applied : Applied P} {ledger : Ledger} {message : Bytes}

/-- What a submission takes out and what it puts in, as tokens: the inputs go, and the outputs that are
not redeemed come. -/
theorem Applied.GoesThrough.unspent_perm (through : applied.GoesThrough ledger message)
    (consistent : ledger.Consistent P) :
    (applied.inputs ++ (applied.result ledger).unspentTokens P).Perm
      ((applied.issued ++ applied.transferred).filter (fun token => !token.isRedeemed) ++
        ledger.unspentTokens P) := by
  have acceptable := through.acceptable
  let inputs := applied.actions.transfers.flatMap TransferAction.inputs
  let spent := inputs.map fun input => (input.id, input.token.toBytes)
  let outputs := Ledger.outputsOf applied.actions.issues applied.actions.transfers
  have ids : spent.map Prod.fst = applied.actions.spent := by
    rw [List.map_map]
    exact List.map_flatMap
  have found : ∀ entry ∈ spent, ledger.state? entry.1 = some entry.2 := by
    refine List.forall_mem_map.mpr fun input mem => ?_
    obtain ⟨transfer, htransfer, mem⟩ := List.mem_flatMap.mp mem
    exact (acceptable.transfers transfer htransfer).stored input mem
  have perm : (spent ++ (applied.result ledger).tokens.entries).Perm
      (Ledger.created applied.anchor outputs ++ ledger.tokens.entries) := by
    rw [Applied.result, ← ids]
    exact Ledger.update_perm (ids ▸ acceptable.spentOnce) found
      (Ledger.nodup_created acceptable.length_outputs_lt) (consistent.fresh through.takes)
  -- the entries are read on both sides: those that go are the inputs, those that come the outputs
  have spentTokens : readEntries spent = applied.inputs := by
    refine readEntries_map inputs _ _ fun input mem => ?_
    obtain ⟨transfer, htransfer, mem⟩ := List.mem_flatMap.mp mem
    exact acceptable.inputs_fit transfer htransfer input mem
  have createdTokens : readEntries (Ledger.created applied.anchor outputs) =
      outputs.filter fun token => !token.isRedeemed := by
    rw [← map_snd_filter_withPositions]
    refine readEntries_map ((withPositions outputs).filter fun entry => !entry.2.isRedeemed) _ _
      fun entry mem => acceptable.outputs_fit entry.2 ?_
    have output : entry.2 ∈ (withPositions outputs).map Prod.snd :=
      List.mem_map_of_mem (List.mem_filter.mp mem).1
    rwa [map_snd_withPositions] at output
  have perm : (readEntries (P := P) (spent ++ (applied.result ledger).tokens.entries)).Perm
      (readEntries (Ledger.created applied.anchor outputs ++ ledger.tokens.entries)) :=
    perm.filterMap _
  rw [readEntries_append, readEntries_append, spentTokens, createdTokens, ← unspentTokens_eq,
    ← unspentTokens_eq] at perm
  exact perm

variable {opening : Commitment P → Scalar × ℤ}

omit [Suite P] [PointGroup.LawfulEncoding P] in
/-- A transfer with inputs and outputs of one type and of equal value keeps the value in every type. -/
theorem TransferAction.total_inputs {transfer : TransferAction P} (tokenType : Scalar)
    (oneType : ∃ common, ∀ c ∈ transfer.inputCommitments ++ transfer.commitments,
      (opening c).1 = common)
    (balance : (transfer.inputCommitments.map fun c => (opening c).2).sum =
      (transfer.commitments.map fun c => (opening c).2).sum) :
    Token.total opening tokenType (transfer.inputs.map ActionInput.token) =
      Token.total opening tokenType transfer.outputs := by
  obtain ⟨common, oneType⟩ := oneType
  obtain ⟨inputs, outputs⟩ := List.forall_mem_append.mp oneType
  have inputs : ∀ token ∈ transfer.inputs.map ActionInput.token, (opening token.data).1 = common :=
    List.forall_mem_map.mpr (List.forall_mem_map.mp inputs)
  have outputs : ∀ token ∈ transfer.outputs, (opening token.data).1 = common :=
    List.forall_mem_map.mp outputs
  rw [Token.total_of_oneType opening tokenType inputs,
    Token.total_of_oneType opening tokenType outputs]
  simp only [inputCommitments, commitments, List.map_map] at balance
  simp only [List.map_map]
  exact congrArg (fun sum => if common = tokenType then sum else 0) balance

omit [PointGroup.LawfulEncoding P] in
/-- The transfers of a submission keep the value in every type. -/
theorem Applied.GoesThrough.total_inputs (through : applied.GoesThrough ledger message)
    (sound : SoundFor opening [applied]) (tokenType : Scalar) :
    Token.total opening tokenType applied.inputs =
      Token.total opening tokenType applied.transferred := by
  have each : ∀ transfer ∈ applied.actions.transfers,
      Token.total opening tokenType (transfer.inputs.map ActionInput.token) =
        Token.total opening tokenType transfer.outputs := fun transfer mem => by
    obtain ⟨oneType, balance⟩ := sound.transfers applied (List.mem_singleton_self _) transfer mem
      (through.acceptable.transfers transfer mem).proved
    exact TransferAction.total_inputs tokenType oneType balance
  unfold inputs transferred
  -- the equation adds up transfer by transfer; the request they come from plays no part
  generalize applied.actions.transfers = transfers at each
  induction transfers with
  | nil => rfl
  | cons transfer rest ih =>
    obtain ⟨first, each⟩ := List.forall_mem_cons.mp each
    rw [List.flatMap_cons, List.map_append, List.flatMap_cons, Token.total_append,
      Token.total_append, first, ih each]

/-- One submission: the supply grows by what is issued and shrinks by what is redeemed. -/
theorem Applied.GoesThrough.total_unspent (through : applied.GoesThrough ledger message)
    (consistent : ledger.Consistent P) (sound : SoundFor opening [applied]) (tokenType : Scalar) :
    Token.total opening tokenType ((applied.result ledger).unspentTokens P) +
        Token.total opening tokenType (applied.transferred.filter Token.isRedeemed) =
      Token.total opening tokenType (ledger.unspentTokens P) +
        Token.total opening tokenType applied.issued := by
  have moved := Token.total_perm opening tokenType (through.unspent_perm consistent)
  have balanced := through.total_inputs sound tokenType
  have redeemed := Token.total_filter_add opening tokenType Token.isRedeemed applied.transferred
  have owned : applied.issued.filter (fun token => !token.isRedeemed) = applied.issued := by
    refine List.filter_eq_self.mpr fun token mem => ?_
    obtain ⟨issue, hissue, mem⟩ := List.mem_flatMap.mp mem
    have wellFormed := (through.acceptable.issues issue hissue).wellFormed
    rw [(IssueAction.check_eq_ok_iff.mp wellFormed).2.2 token mem]
    rfl
  rw [List.filter_append, owned] at moved
  simp only [Token.total_append] at moved
  linarith

/-! ## Runs -/

/-- All tokens that issues made in a run. -/
def Run.issued (run : Run P) : List (Token P) := run.applied.flatMap Applied.issued

/-- All tokens that were redeemed in a run: outputs of transfers that nobody owns. -/
def Run.redeemed (run : Run P) : List (Token P) :=
  (run.applied.flatMap Applied.transferred).filter Token.isRedeemed

omit [PointGroup.LawfulEncoding P] in
/-- Proofs that are sound for some submissions and for others are sound for all of them. -/
theorem SoundFor.append_iff {submissions others : List (Applied P)} :
    SoundFor opening (submissions ++ others) ↔
      SoundFor opening submissions ∧ SoundFor opening others := by
  constructor
  · rintro ⟨issues, transfers⟩
    obtain ⟨issues, issues'⟩ := List.forall_mem_append.mp issues
    obtain ⟨transfers, transfers'⟩ := List.forall_mem_append.mp transfers
    exact ⟨⟨issues, transfers⟩, ⟨issues', transfers'⟩⟩
  · rintro ⟨⟨issues, transfers⟩, ⟨issues', transfers'⟩⟩
    exact ⟨List.forall_mem_append.mpr ⟨issues, issues'⟩,
      List.forall_mem_append.mpr ⟨transfers, transfers'⟩⟩

/-- The books of a run balance in a type. -/
def Run.Balanced (opening : Commitment P → Scalar × ℤ) (tokenType : Scalar) (run : Run P) : Prop :=
  Token.total opening tokenType (run.ledger.unspentTokens P) +
      Token.total opening tokenType run.redeemed = Token.total opening tokenType run.issued

/-- A submission that goes through keeps the books balanced, if the proofs that it brings are sound. -/
theorem Run.Balanced.submit {run : Run P} {tokenType : Scalar}
    (balanced : run.Balanced opening tokenType) (consistent : run.ledger.Consistent P)
    (through : applied.GoesThrough run.ledger message) (sound : SoundFor opening [applied]) :
    Balanced opening tokenType ⟨applied.result run.ledger, run.applied ++ [applied]⟩ := by
  have moved := through.total_unspent consistent sound tokenType
  unfold Balanced redeemed issued at balanced ⊢
  simp only [List.flatMap_append, List.flatMap_singleton, List.filter_append, Token.total_append]
  linarith

/-- A ledger whose tokens can be read holds a token under every unspent id. -/
theorem Ledger.Consistent.exists_token (consistent : ledger.Consistent P) {id : TokenId}
    (mem : id ∈ ledger.unspent) : ∃ token : Token P, ledger.token? id = some token := by
  obtain ⟨⟨_, bytes⟩, entry, rfl⟩ := List.mem_map.mp mem
  have there : ledger.state? _ = some bytes := SortedMap.get?_eq_some_iff.mpr entry
  obtain ⟨token, -, fits, rfl⟩ := consistent.readable _ _ there
  exact ⟨token, token?_eq_some there fits⟩

/-- Value is conserved over whole runs: for every type, what is unspent and what was redeemed together
are what was issued. Every unspent token counts, for all can be read. -/
theorem Run.supply_conserved (time : UInt64) (events : List (Event P))
    (opening : Commitment P → Scalar × ℤ) (sound : SoundFor opening (after time events).applied) :
    (∀ id ∈ (after time events).ledger.unspent, ∃ token : Token P,
      (after time events).ledger.token? id = some token) ∧
    ∀ tokenType,
      Token.total opening tokenType ((after time events).ledger.unspentTokens P) +
          Token.total opening tokenType (after time events).redeemed =
        Token.total opening tokenType (after time events).issued := by
  refine ⟨fun id mem => (consistent_after time events).exists_token mem, fun tokenType => ?_⟩
  revert sound
  -- soundness is a premise of the invariant: a run that is sound was sound before its last event
  refine (after_induction (Q := fun run => run.ledger.Consistent P ∧
    (SoundFor opening run.applied → run.Balanced opening tokenType)) ?_ ?_ ?_ events).2
  · exact ⟨Ledger.Consistent.empty time, fun _ => rfl⟩
  · rintro run now ⟨consistent, balanced⟩
    exact ⟨consistent.setTime now, balanced⟩
  · rintro run applied message through ⟨consistent, balanced⟩
    refine ⟨through.consistent consistent, fun sound => ?_⟩
    obtain ⟨before, last⟩ := SoundFor.append_iff.mp sound
    exact (balanced before).submit consistent through last

/-- After the reclaim of a swap the sender holds what was issued. The opening gives every commitment
one type and its logarithm as the value. -/
theorem Run.reclaim_conserves :
    SoundFor (fun c : Commitment Plain => (0, (c.point.log.val : ℤ)))
        (after 0 (Plain.mintAndWait ++ [Plain.submitReclaim])).applied ∧
      Token.total (fun c : Commitment Plain => (0, (c.point.log.val : ℤ))) 0
        ((after 0 (Plain.mintAndWait ++ [Plain.submitReclaim])).ledger.unspentTokens Plain) = 5 := by
  have applied : (after 0 (Plain.mintAndWait ++ [Plain.submitReclaim])).applied =
      [Plain.minted, Plain.reclaimed] := by
    rw [after_append_singleton, Plain.step_submitReclaim]
  have sound : SoundFor (fun c : Commitment Plain => (0, (c.point.log.val : ℤ)))
      (after 0 (Plain.mintAndWait ++ [Plain.submitReclaim])).applied := by
    rw [applied]
    refine ⟨fun _ _ _ _ _ => ⟨0, fun _ _ => rfl⟩, fun submission mem transfer transferred _ => ?_⟩
    refine ⟨⟨0, fun _ _ => rfl⟩, ?_⟩
    rcases List.mem_pair.mp mem with rfl | rfl
    · exact nomatch transferred
    · obtain rfl := List.mem_singleton.mp transferred
      rfl
  refine ⟨sound, ?_⟩
  have conserved := (supply_conserved 0 _ _ sound).2 0
  simp only [redeemed, issued, applied] at conserved
  have transferred : [Plain.minted, Plain.reclaimed].flatMap Applied.transferred =
      [⟨Plain.sender.identity, Plain.locked.data⟩] := rfl
  have owned : Token.isRedeemed ⟨Plain.sender.identity, Plain.locked.data⟩ = false := rfl
  have issued : [Plain.minted, Plain.reclaimed].flatMap Applied.issued = [Plain.locked] := rfl
  rw [transferred, List.filter_singleton, owned, issued] at conserved
  exact (add_zero _).symm.trans conserved

end ConfidentialToken
