import ConfidentialToken.Proofs.PointGroup.Encoding
import ConfidentialToken.Proofs.Positions
import ConfidentialToken.Proofs.SortedMap
import ConfidentialToken.Proofs.Wire.RoundTrip
import ConfidentialToken.Request

/-!
# Round trips of tokens and actions

Texts, points, tokens and actions read back from what is written of them. `Fits` names the bound on
lengths that this needs; whatever was read satisfies it, so a token that came out of a request is read
back from its own bytes. Reading the actions of a request is characterized as reading each of them.
-/

namespace ConfidentialToken

/-! ## Leaves -/

/-- The bytes of a text read back as the text. -/
theorem Bytes.toText?_ofText (text : String) : Bytes.toText? (Bytes.ofText text) = some text := by
  simp only [Bytes.toText?, Bytes.ofText, String.fromUTF8?, Array.toArray_toList]
  exact dif_pos text.isValidUTF8

namespace Wire.Codec

theorem roundTrips_text {value : String} (fits : (Bytes.ofText value).length < lengthBound) :
    text.RoundTrips value := by
  refine .refine ?_ (roundTrips_sized fits)
  simp only [readText, Bytes.toText?_ofText]

theorem roundTrips_choice {α : Type} [DecidableEq α] {all : List α} {value : α}
    (mem : value ∈ all) (small : all.length ≤ Nat.pow 256 4) : (choice all).RoundTrips value := by
  have lt : all.idxOf value < all.length := List.idxOf_lt_length_of_mem mem
  have toNat : (Block.ofNat 4 (all.idxOf value)).toNat = all.idxOf value :=
    Bytes.toNat_littleEndian (Nat.lt_of_lt_of_le lt small)
  refine .refine ?_ (roundTrips_block 4 _)
  simp only [toNat, List.getElem?_eq_getElem lt, List.getElem_idxOf lt]

theorem roundTrips_scalar (value : Scalar) : scalar.RoundTrips value := by
  refine .refine ?_ (roundTrips_block 32 _)
  simp only [Scalar.ofBlock?_toBlock]

theorem roundTrips_point {P : Type} [PointGroup P] [PointGroup.LawfulEncoding P] (fault : Fault)
    (value : P) : (point P fault).RoundTrips value := by
  refine .refine ?_ (roundTrips_block 32 _)
  simp only [PointGroup.LawfulEncoding.decode_encode]

end Wire.Codec

open Wire (lengthBound)
open Wire.Codec

/-! ## Tokens -/

/-- Whether the length of an identity can be written. -/
def Identity.Fits (identity : Identity) : Prop := identity.bytes.length < lengthBound

instance (identity : Identity) : Decidable identity.Fits := inferInstanceAs (Decidable (_ < _))

theorem Identity.roundTrips {identity : Identity} (fits : identity.Fits) :
    Identity.codec.RoundTrips identity :=
  .via rfl (roundTrips_bytes fits)

theorem Identity.ensures_fits : Identity.codec.Ensures Identity.Fits :=
  Ensures.via ensures_bytes

section

variable {P : Type} [PointGroup P]

/-- Whether the length of a token's owner can be written. -/
def Token.Fits (token : Token P) : Prop := token.owner.Fits

instance (token : Token P) : Decidable token.Fits := inferInstanceAs (Decidable token.owner.Fits)

theorem Token.ensures_fits : Token.codec.Ensures (Token.Fits (P := P)) :=
  Ensures.via <| (Identity.ensures_fits.pair (ensures_true _)).mono fun _ h => h.1

theorem ActionInput.ensures_fits :
    ActionInput.codec.Ensures fun input : ActionInput P => input.token.Fits :=
  Ensures.via <| (Ensures.pair (ensures_true _) Token.ensures_fits).mono fun _ h => h.2

/-- The inputs and the outputs of a transfer that was read can be written again. -/
theorem TransferAction.ensures_fits : TransferAction.codec.Ensures fun action : TransferAction P =>
    (∀ input ∈ action.inputs, input.token.Fits) ∧ ∀ output ∈ action.outputs, output.Fits :=
  Ensures.via <| (ActionInput.ensures_fits.list.pair
    (Token.ensures_fits.list.pair (ensures_true _))).mono fun _ h => ⟨h.1, h.2.1⟩

/-- The outputs of an issue that was read can be written again. -/
theorem IssueAction.ensures_fits : IssueAction.codec.Ensures fun action : IssueAction P =>
    ∀ output ∈ action.outputs, output.Fits :=
  Ensures.via <| (Ensures.pair (ensures_true _)
    (Token.ensures_fits.list.pair (ensures_true _))).mono fun _ h => h.2.1

/-! ## Actions -/

/-- Reading the actions of a request is reading each of them. -/
theorem TokenRequest.readActions_eq_ok_iff {request : TokenRequest} {issues : List (IssueAction P)}
    {transfers : List (TransferAction P)} :
    request.readActions P = .ok (issues, transfers) ↔
      List.Forall₂ (fun bytes action => IssueAction.ofBytes bytes = .ok action) request.issues
        issues ∧
      List.Forall₂ (fun bytes action => TransferAction.ofBytes bytes = .ok action) request.transfers
        transfers := by
  rw [← mapM_withPositions_eq_ok_iff _ fun i => s!"issue [{i}]",
    ← mapM_withPositions_eq_ok_iff _ fun i => s!"transfer [{i}]"]
  unfold readActions
  rw [Outcome.bind_eq_ok_iff]
  simp only [Outcome.bind_eq_ok_iff]
  constructor
  · rintro ⟨_, hissues, _, htransfers, h⟩
    cases h
    exact ⟨hissues, htransfers⟩
  · rintro ⟨hissues, htransfers⟩
    exact ⟨_, hissues, _, htransfers, rfl⟩

/-- What holds of whatever is read from some sources holds of all that was read. -/
theorem forall_mem_of_forall₂_read {α : Type} {read : Bytes → Outcome α} {Q : α → Prop}
    {sources : List Bytes} {values : List α}
    (ensures : ∀ bytes ∈ sources, ∀ value, read bytes = .ok value → Q value)
    (h : List.Forall₂ (fun bytes value => read bytes = .ok value) sources values) :
    ∀ value ∈ values, Q value := by
  induction h with
  | nil => exact nofun
  | cons hread _ ih =>
    obtain ⟨first, rest⟩ := List.forall_mem_cons.mp ensures
    exact List.forall_mem_cons.mpr ⟨first _ hread, ih rest⟩

/-- The tokens of actions that were read can be written and read again. -/
theorem TokenRequest.fits_of_readActions {request : TokenRequest} {issues : List (IssueAction P)}
    {transfers : List (TransferAction P)} (read : request.readActions P = .ok (issues, transfers)) :
    (∀ issue ∈ issues, ∀ output ∈ issue.outputs, output.Fits) ∧
      ∀ transfer ∈ transfers, (∀ input ∈ transfer.inputs, input.token.Fits) ∧
        ∀ output ∈ transfer.outputs, output.Fits := by
  obtain ⟨hissues, htransfers⟩ := readActions_eq_ok_iff.mp read
  constructor
  · refine forall_mem_of_forall₂_read (fun bytes _ issue hread => ?_) hissues
    exact IssueAction.ensures_fits.of_read (Outcome.inContext_eq_ok_iff.mp hread)
  · refine forall_mem_of_forall₂_read (fun bytes _ transfer hread => ?_) htransfers
    exact TransferAction.ensures_fits.of_read (Outcome.inContext_eq_ok_iff.mp hread)

variable [PointGroup.LawfulEncoding P]

theorem Commitment.roundTrips (commitment : Commitment P) :
    Commitment.codec.RoundTrips commitment :=
  .via rfl (roundTrips_point _ _)

theorem Token.roundTrips {token : Token P} (fits : token.Fits) : Token.codec.RoundTrips token :=
  .via rfl (.pair (Identity.roundTrips fits) (Commitment.roundTrips _))

/-- A token is read back from its bytes. -/
theorem Token.ofBytes_toBytes {token : Token P} (fits : token.Fits) :
    Token.ofBytes token.toBytes = .ok token := by
  simp only [Token.ofBytes, Token.toBytes, (Token.roundTrips fits).read_encode]
  rfl

/-! ## Maps and actions -/

/-- Whether the lengths in a map can be written. -/
def SortedMap.Fits (map : SortedMap String Bytes) : Prop :=
  map.entries.length < lengthBound ∧ ∀ entry ∈ map.entries,
    (Bytes.ofText entry.1).length < lengthBound ∧ entry.2.length < lengthBound

instance (map : SortedMap String Bytes) : Decidable map.Fits := inferInstanceAs (Decidable (_ ∧ _))

theorem Wire.Codec.roundTrips_map {map : SortedMap String Bytes} (fits : map.Fits) :
    Wire.Codec.map.RoundTrips map :=
  .via map.ofList_entries <| .list fits.1 fun entry mem =>
    .pair (roundTrips_text (fits.2 entry mem).1) (roundTrips_bytes (fits.2 entry mem).2)

/-- Whether the length of the request that made a token can be written. -/
def TokenId.Fits (id : TokenId) : Prop := (Bytes.ofText id.txId).length < lengthBound

instance (id : TokenId) : Decidable id.Fits := inferInstanceAs (Decidable (_ < _))

theorem TokenId.roundTrips {id : TokenId} (fits : id.Fits) : TokenId.codec.RoundTrips id :=
  .via rfl (.pair (roundTrips_text fits) (roundTrips_u64 _))

/-- Whether the lengths in an issue can be written. -/
structure IssueAction.Fits (action : IssueAction P) : Prop where
  issuer : action.issuer.Fits
  count : action.outputs.length < lengthBound
  outputs : ∀ output ∈ action.outputs, output.Fits
  proof : action.proof.length < lengthBound
  metadata : action.metadata.Fits

/-- An issue is read back from its bytes. -/
theorem IssueAction.ofBytes_toBytes {action : IssueAction P} (fits : action.Fits) :
    IssueAction.ofBytes action.toBytes = .ok action := by
  have roundTrips : IssueAction.codec.RoundTrips action :=
    .via rfl (.pair (Identity.roundTrips fits.issuer)
      (.pair (.list fits.count fun output mem => Token.roundTrips (fits.outputs output mem))
        (.pair (roundTrips_bytes fits.proof) (roundTrips_map fits.metadata))))
  exact Outcome.inContext_eq_ok_iff.mpr roundTrips.read_encode

/-- Whether the lengths in a transfer can be written. -/
structure TransferAction.Fits (action : TransferAction P) : Prop where
  countInputs : action.inputs.length < lengthBound
  inputs : ∀ input ∈ action.inputs, input.id.Fits ∧ input.token.Fits
  countOutputs : action.outputs.length < lengthBound
  outputs : ∀ output ∈ action.outputs, output.Fits
  proof : action.proof.length < lengthBound
  metadata : action.metadata.Fits
  countExtraSigners : action.extraSigners.length < lengthBound
  extraSigners : ∀ signer ∈ action.extraSigners, signer.Fits

/-- A transfer is read back from its bytes. -/
theorem TransferAction.ofBytes_toBytes {action : TransferAction P} (fits : action.Fits) :
    TransferAction.ofBytes action.toBytes = .ok action := by
  have input : ∀ input ∈ action.inputs, ActionInput.codec.RoundTrips input := fun input mem =>
    .via rfl (.pair (TokenId.roundTrips (fits.inputs input mem).1)
      (Token.roundTrips (fits.inputs input mem).2))
  have roundTrips : TransferAction.codec.RoundTrips action :=
    .via rfl (.pair (.list fits.countInputs input)
      (.pair (.list fits.countOutputs fun output mem => Token.roundTrips (fits.outputs output mem))
        (.pair (roundTrips_bytes fits.proof) (.pair (roundTrips_map fits.metadata)
          (.list fits.countExtraSigners fun signer mem =>
            Identity.roundTrips (fits.extraSigners signer mem))))))
  exact Outcome.inContext_eq_ok_iff.mpr roundTrips.read_encode

end

/-! ## Disclosures -/

theorem Opening.roundTrips {opening : Opening}
    (fits : (Bytes.ofText opening.tokenType).length < lengthBound) :
    Opening.codec.RoundTrips opening :=
  .via rfl (.pair (roundTrips_text fits) (.pair (roundTrips_u64 _) (roundTrips_scalar _)))

/-- A disclosure without an issuer is read back from its bytes. -/
theorem Disclosure.ofBytes_toBytes {opening : Opening}
    (fits : (Bytes.ofText opening.tokenType).length < lengthBound) :
    ofBytes (toBytes ⟨opening, none⟩) = .ok ⟨opening, none⟩ := by
  have trips : codec.RoundTrips ⟨opening, none⟩ :=
    .via rfl (.pair (Opening.roundTrips fits) (.option nofun))
  exact Outcome.inContext_eq_ok_iff.mpr trips.read_encode

end ConfidentialToken
