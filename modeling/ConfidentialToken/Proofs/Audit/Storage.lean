import ConfidentialToken.Proofs.Assembly.Requests

/-!
# Nothing is stored unaudited

When the auditor and the validator accept a request under the same parameters, the tokens shown to the
auditor are those that the ledger has, and each token that the ledger stores is the one whose opening and
owner were told in its place. The two read the request on their own, from the same bytes of its actions.
-/

namespace ConfidentialToken

variable {P : Type}

namespace Ledger

/-- A ledger holds a token in a place: its bytes, which read as the token. -/
def Holds [PointGroup P] (ledger : Ledger) (id : TokenId) (token : Token P) : Prop :=
  ledger.state? id = some token.toBytes ∧ ledger.token? id = some token

/-- A ledger that has taken created tokens holds each of them, under the number of its place. -/
theorem exists_place_of_mem_created [PointGroup P] [PointGroup.LawfulEncoding P] {ledger : Ledger}
    {anchor : String} {spent : List TokenId} {actions : ValidatedActions P} {id : TokenId}
    (few : (outputsOf actions.issues actions.transfers).length < UInt64.size)
    (fit : ∀ output ∈ outputsOf actions.issues actions.transfers, output.Fits)
    (mem : id ∈ (created anchor (outputsOf actions.issues actions.transfers)).map Prod.fst) :
    ∃ (place : OutputPlace) (token : Token P), id.txId = anchor ∧
      id.index.toNat = place.number actions ∧ place.output? actions = some token ∧
      token.isRedeemed = false ∧ (ledger.update anchor spent
        (created anchor (outputsOf actions.issues actions.transfers))).Holds id token := by
  obtain ⟨⟨_, bytes⟩, isCreated, rfl⟩ := List.mem_map.mp mem
  have stored : (ledger.update anchor spent _).state? _ = some bytes :=
    state?_update_of_mem (nodup_created few) isCreated
  obtain ⟨n, token, listed, owned, rfl, rfl⟩ := mem_created_iff.mp isCreated
  have there := getElem?_of_mem_withPositions listed
  obtain ⟨place, output, rfl⟩ := OutputPlace.exists_of_getElem? there
  refine ⟨place, token, rfl, ?_, output, owned, stored, ?_⟩
  · exact UInt64.toNat_ofNat_of_lt' (Nat.lt_trans (List.getElem?_eq_some_iff.mp there).1 few)
  · exact token?_eq_some stored (fit token (mem_of_mem_withPositions listed))

variable [Suite P] [PointGroup.LawfulEncoding P]

/-- The tokens that are shown as spent are those that the ledger holds under the ids of the inputs. -/
theorem holds_shown {pp : PublicParameters P} {ledger : Ledger} {anchor : String}
    {request : TokenRequest} {message : Bytes} {actions : ValidatedActions P} {g : Generators P}
    {metadata : RequestMetadata} {shown : List (List (Token P))}
    (full : request.DisclosedBy g metadata shown)
    (acceptable : request.Acceptable pp ledger anchor message actions) :
    List.Forall₂ (fun transfer tokens => List.Forall₂ ledger.Holds transfer.inputIds tokens)
      actions.transfers shown := by
  obtain ⟨-, transfers⟩ := TokenRequest.readActions_eq_ok_iff.mp acceptable.read
  refine List.forall₂_iff_get.mpr ⟨?_, fun k bound bound' => ?_⟩
  · rw [← transfers.length_eq, full.transfers, full.spends]
  · obtain ⟨told, tokens, -, there, disclosed⟩ :=
      full.exists_transfer acceptable.read (List.getElem?_eq_getElem bound)
    have mem := List.getElem_mem bound
    -- the shown tokens are those in the action, and the validator has compared these with the ledger
    show List.Forall₂ ledger.Holds (actions.transfers[k].inputs.map ActionInput.id) shown[k]
    rw [(List.getElem?_eq_some_iff.mp there).2, ← disclosed.spends, List.forall₂_map_left_iff,
      List.forall₂_map_right_iff, List.forall₂_same]
    intro input listed
    have stored := acceptable.stored _ mem input listed
    exact ⟨stored, token?_eq_some stored (acceptable.inputs_fit _ mem input listed)⟩

/-- When the auditor and the validator accept a request under the same parameters, on any ledger and
under a new anchor, the tokens shown to the auditor are those that the ledger holds where the transfers
spend. When the request is applied, whatever comes to the ledger has the number of an output, and what
metadata tells of that output is true of the token that the ledger then holds. -/
theorem stored_audited {pp : PublicParameters P} {signer : Option Signer} {parent logger : Logger}
    {ledger : Ledger} {anchor : String} {request : TokenRequest} {metadata : RequestMetadata}
    {shown : List (List (Token P))} {actions : ValidatedActions P} {log log' : List LogRecord}
    (audited : (((Auditor.create pp signer parent).check request metadata shown anchor).perform
      log).1 = .ok ())
    (accepted : (((Validator.create pp logger).validate ledger anchor request).perform log').1 =
      .ok actions)
    (fresh : anchor ∉ ledger.history.map LedgerEvent.anchor) :
    List.Forall₂ (fun transfer tokens => List.Forall₂ ledger.Holds transfer.inputIds tokens)
        actions.transfers shown ∧
      ∃ made after,
        (apply anchor actions.issues actions.transfers).perform ledger = (.ok made, after) ∧
        (∀ id bytes, after.state? id = some bytes → ledger.state? id = some bytes ∨ id ∈ made) ∧
        ∀ id ∈ made, ∃ (place : OutputPlace) (token : Token P), id.txId = anchor ∧
          id.index.toNat = place.number actions ∧ place.output? actions = some token ∧
          after.Holds id token ∧ token.ToldAt pp.generators metadata place := by
  have full : request.DisclosedBy pp.generators metadata shown :=
    Auditor.inspect_eq_ok_iff.mp (Auditor.check_eq_ok_iff_inspect.mp audited)
  obtain ⟨message, acceptable⟩ := Validator.validate_eq_ok_iff.mp accepted
  have read := acceptable.read
  refine ⟨holds_shown full acceptable, _, _, acceptable.perform_apply_eq_ok fresh, ?_, ?_⟩
  · intro id bytes there
    exact (state?_or_mem_of_update there).imp_right fun mem => List.mem_map_of_mem mem
  · intro id mem
    obtain ⟨place, token, anchored, number, output, owned, held⟩ :=
      exists_place_of_mem_created acceptable.length_outputs_lt acceptable.outputs_fit mem
    exact ⟨place, token, anchored, number, output, held, full.toldAt read output owned⟩

end Ledger

namespace Plain

/-- The issue and the split are audited and accepted in one request. Of their four outputs the last is
redeemed; the ledger stores the other three, each as it was told of. -/
theorem stored_audited_split : ∃ issue issueMetadata split splitMetadata,
    Paid issue issueMetadata split splitMetadata ∧
    ∃ (submission : Submission Plain) (request : TokenRequest) (made : List TokenId) (after : Ledger),
      (((Auditor.create governed none .default).check request submission.metadata
        submission.inputs "pay").perform []).1 = .ok () ∧
      (((Validator.create governed .default).validate treasury "pay" request).perform []).1 =
        .ok ⟨[issue], [split]⟩ ∧
      List.Forall₂ (fun transfer tokens => List.Forall₂ treasury.Holds transfer.inputIds tokens)
        [split] submission.inputs ∧
      (Ledger.apply "pay" [issue] [split]).perform treasury = (.ok made, after) ∧
      made = [⟨"pay", 0⟩, ⟨"pay", 1⟩, ⟨"pay", 2⟩] ∧
      (∀ id bytes, after.state? id = some bytes → treasury.state? id = some bytes ∨ id ∈ made) ∧
      ∀ id ∈ made, ∃ (place : OutputPlace) (token : Token Plain), id.txId = "pay" ∧
        id.index.toNat = place.number ⟨[issue], [split]⟩ ∧
        place.output? ⟨[issue], [split]⟩ = some token ∧
        after.Holds id token ∧ token.ToldAt generators submission.metadata place := by
  obtain ⟨issue, issueMetadata, split, splitMetadata, paid⟩ := exists_paid
  obtain ⟨message, written⟩ := paid.exists_message
  let submission : Submission Plain :=
    .holding .empty [.transfer split splitMetadata, .issue issue issueMetadata]
  let signers := [sender.signer Plain, sender.signer Plain]
  let auditors := [recipient.signer Plain]
  let request := (submission.request.withSignatures message signers).withEndorsements message auditors
  have holds : request.Holds _ := (Submission.holds_holding .empty _).withSignatures message signers
    |>.withEndorsements message auditors
  have acceptable := acceptable_of_honest made_governed paid.honest paid.distinct keys_paid
    paid.signing (fun _ listed => listed) written
  have audited : (((Auditor.create governed none .default).check request submission.metadata
      submission.inputs "pay").perform []).1 = .ok () :=
    Auditor.check_eq_ok_iff_inspect.mpr <| Auditor.inspect_eq_ok_iff.mpr <|
      holds.disclosedBy .empty made_governed paid.honest paid.distinct acceptable.written
  have accepted : (((Validator.create governed .default).validate treasury "pay"
      request).perform []).1 = .ok ⟨[issue], [split]⟩ :=
    Validator.validate_eq_ok_iff.mpr ⟨message, acceptable⟩
  obtain ⟨shown, made, after, applied, kept, told⟩ :=
    Ledger.stored_audited audited accepted (by decide)
  refine ⟨issue, issueMetadata, split, splitMetadata, paid, submission, request, made, after, audited,
    accepted, shown, applied, ?_, kept, told⟩
  obtain ⟨-, -, rfl, -⟩ := Ledger.perform_apply_eq_ok_iff.mp applied
  exact paid.map_fst_created

end Plain

end ConfidentialToken
