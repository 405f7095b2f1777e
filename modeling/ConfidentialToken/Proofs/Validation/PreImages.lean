import ConfidentialToken.Proofs.Suite.Requests

/-!
# Pre-images in public

The other party of a swap searches the transfers for a pre-image of the lock it has in its own script. It
finds one exactly if some transfer discloses one, whatever else stands under the same key before it. What
the search looks for is what acceptance of a claim asks for, so after every accepted claim it finds
something. Keys are told apart by the hashes in them, and one transfer has room for the claims of many.
-/

namespace ConfidentialToken

/-! ## Hexadecimal -/

/-- Each digit has its value. -/
theorem Bytes.hexValue?_hexDigit : ∀ n < 16, hexValue? (hexDigit n) = some n := by decide

/-- The two digits of a byte are read as the byte. -/
theorem Bytes.unhexOnto_digits (read bytes : Bytes) :
    unhexOnto read (bytes.flatMap fun b => [hexDigit (b.toNat / 16), hexDigit (b.toNat % 16)]) =
      some (read.reverse ++ bytes) := by
  induction bytes generalizing read with
  | nil => rw [List.append_nil]; rfl
  | cons b rest ih =>
    have bound := b.toNat_lt
    have high := hexValue?_hexDigit (b.toNat / 16) (by omega)
    have low := hexValue?_hexDigit (b.toNat % 16) (by omega)
    have whole : UInt8.ofNat (16 * (b.toNat / 16) + b.toNat % 16) = b := by
      rw [Nat.div_add_mod, UInt8.ofNat_toNat]
    simp only [List.flatMap_cons, List.cons_append, List.nil_append, unhexOnto, high, low, whole, ih,
      List.reverse_cons, List.append_assoc]

/-- What is written in hexadecimal is read back. -/
theorem Bytes.ofHex?_hex (bytes : Bytes) : ofHex? (hex bytes).toList = some bytes := by
  unfold hex
  rw [String.toList_ofList]
  exact unhexOnto_digits [] bytes

theorem Bytes.hex_injective : Function.Injective hex := by
  intro bytes bytes' same
  have read := congrArg (fun text : String => ofHex? text.toList) same
  simp only [ofHex?_hex] at read
  exact Option.some.inj read

/-- Different hashes have different claim keys. -/
theorem HashLock.claimKey_injective : Function.Injective claimKey := by
  intro hash hash' same
  have characters := congrArg String.toList same
  unfold claimKey at characters
  rw [String.toList_append, String.toList_append] at characters
  exact Bytes.hex_injective (String.toList_inj.mp (List.append_cancel_left characters))

/-! ## The search -/

section

variable {P : Type} {transfers : List (TransferAction P)} {lock : HashLock} {preImage : Bytes}

/-- Something is found exactly if a pre-image stands under the claim key. -/
theorem HashLock.isSome_findPreImage_iff : (lock.findPreImage transfers).isSome = true ↔
    ∃ transfer ∈ transfers, ∃ value, transfer.metadata.get? (claimKey lock.hash) = some value ∧
      lock.isPreImage value = true := by
  simp only [findPreImage, List.find?_isSome, List.mem_filterMap]
  constructor
  · rintro ⟨value, ⟨transfer, mem, disclosed⟩, opens⟩
    exact ⟨transfer, mem, value, disclosed, opens⟩
  · rintro ⟨transfer, mem, value, disclosed, opens⟩
    exact ⟨value, ⟨transfer, mem, disclosed⟩, opens⟩

/-- What is found is a pre-image. -/
theorem HashLock.isPreImage_of_found (found : lock.findPreImage transfers = some preImage) :
    lock.isPreImage preImage = true :=
  List.find?_some found

/-- A pre-image in one of the transfers is enough to find one. -/
theorem HashLock.exists_findPreImage {transfer : TransferAction P} (mem : transfer ∈ transfers)
    (disclosed : transfer.metadata.get? (claimKey lock.hash) = some preImage)
    (opens : lock.isPreImage preImage = true) :
    ∃ found, lock.findPreImage transfers = some found ∧ lock.isPreImage found = true := by
  obtain ⟨found, finds⟩ := Option.isSome_iff_exists.mp
    (isSome_findPreImage_iff.mpr ⟨transfer, mem, preImage, disclosed, opens⟩)
  exact ⟨found, finds, isPreImage_of_found finds⟩

end

/-! ## Many claims in one transfer -/

/-- A value that is disclosed for a lock. -/
structure Claim where
  lock : HashLock
  value : Bytes

/-- The entry that a claim is in the metadata of a transfer. -/
def Claim.entry (claim : Claim) : String × Bytes := (HashLock.claimKey claim.lock.hash, claim.value)

section

variable {P : Type}

/-- Puts claims into the metadata of a transfer. -/
def TransferAction.disclose (transfer : TransferAction P) (claims : List Claim) : TransferAction P :=
  claims.foldl (fun transfer claim => transfer.setMetadata claim.entry.1 claim.entry.2) transfer

theorem TransferAction.metadata_disclose (transfer : TransferAction P) (claims : List Claim) :
    (transfer.disclose claims).metadata = (claims.map Claim.entry).foldl
      (fun m (key, value) => m.insert key value) transfer.metadata := by
  unfold disclose
  induction claims generalizing transfer with
  | nil => rfl
  | cons claim rest ih => exact ih _

/-- Claims for different hashes do not overwrite each other. -/
theorem TransferAction.get?_disclose (transfer : TransferAction P) {claims : List Claim}
    (apart : (claims.map fun claim => claim.lock.hash).Nodup) {claim : Claim} (mem : claim ∈ claims) :
    (transfer.disclose claims).metadata.get? (HashLock.claimKey claim.lock.hash) =
      some claim.value := by
  have keys : ((claims.map Claim.entry).map Prod.fst).Nodup := by
    have injected := apart.map HashLock.claimKey_injective
    rw [List.map_map] at injected ⊢
    exact injected
  rw [metadata_disclose]
  exact SortedMap.get?_foldl_insert_of_nodup keys (List.mem_map_of_mem (f := Claim.entry) mem)

end

/-! ## Accepted claims -/

variable {P : Type} [Suite P]

/-- A claim discloses a pre-image that can be used. The search over transfers finds something exactly if
some transfer has a pre-image under the claim key, and what it finds is one. So it finds one for every
script that owns an input of an accepted request before its deadline, in any list with that transfer.
Keys of different hashes differ, and claims for different hashes that are put into one transfer are found
all, and pass the check of claims by the recipients. -/
theorem HashLock.claims_usable :
    (∀ (transfers : List (TransferAction P)) (lock : HashLock),
      ((lock.findPreImage transfers).isSome = true ↔ ∃ transfer ∈ transfers, ∃ value,
        transfer.metadata.get? (claimKey lock.hash) = some value ∧ lock.isPreImage value = true) ∧
      ∀ value, lock.findPreImage transfers = some value → lock.isPreImage value = true) ∧
    (∀ (pp : PublicParameters P) (logger : Logger) (log : List LogRecord) (ledger : Ledger)
      (anchor : String) (request : TokenRequest) (actions : ValidatedActions P),
      (((Validator.create pp logger).validate ledger anchor request).perform log).1 = .ok actions →
      ∀ transfer ∈ actions.transfers, ∀ input ∈ transfer.inputs,
        Script.isScript input.token.owner = true → ∃ script,
          Script.ofIdentity input.token.owner = .ok script ∧
          (ledger.time < script.deadline → ∀ transfers : List (TransferAction P),
            transfer ∈ transfers → ∃ preImage, script.lock.findPreImage transfers = some preImage ∧
              script.lock.isPreImage preImage = true)) ∧
    (∀ hash hash', hash ≠ hash' → claimKey hash ≠ claimKey hash') ∧
    ∀ (transfer : TransferAction P) (claims : List Claim),
      (claims.map fun claim => claim.lock.hash).Nodup →
      ∀ claim ∈ claims, claim.lock.isPreImage claim.value = true →
        (∀ transfers : List (TransferAction P), transfer.disclose claims ∈ transfers →
          ∃ preImage, claim.lock.findPreImage transfers = some preImage ∧
            claim.lock.isPreImage preImage = true) ∧
        ∀ (script : Script) (id : TokenId) (output : Token P), script.lock = claim.lock →
          output.owner = script.recipient →
          Rule.checkClaim script id output (transfer.disclose claims).metadata = .ok () := by
  refine ⟨fun transfers lock => ⟨isSome_findPreImage_iff, fun _ => isPreImage_of_found⟩, ?_,
    fun _ _ differ same => differ (claimKey_injective same), ?_⟩
  · intro pp logger log ledger anchor request actions accepted transfer htransfer input hinput isScript
    obtain ⟨_, acceptable⟩ := Validator.validate_eq_ok_iff.mp accepted
    obtain ⟨script, read, _, _, _, claim⟩ :=
      (acceptable.transfers transfer htransfer).released input hinput isScript
    refine ⟨script, read, fun early transfers mem => ?_⟩
    obtain ⟨value, disclosed, opens⟩ := claim early
    exact exists_findPreImage mem disclosed opens
  · intro transfer claims apart claim mem opens
    have disclosed := transfer.get?_disclose apart mem
    refine ⟨fun transfers mem => exists_findPreImage mem disclosed opens, ?_⟩
    intro script id output lock owner
    exact Rule.checkClaim_eq_ok_iff.mpr ⟨owner, claim.value, lock ▸ disclosed, lock ▸ opens⟩

/-! ## A swap that is claimed -/

namespace Plain

/-- A lock that the byte 7 opens. -/
def openable : HashLock where
  hash := [202, 53, 135, 88, 246, 210, 126, 108, 244, 82, 114, 147, 121, 119, 167, 72, 253, 136, 57, 29,
    182, 121, 206, 218, 125, 199, 191, 31, 0, 94, 232, 121]
  function := .sha256
  encoding := .raw

theorem isPreImage_openable : openable.isPreImage [7] = true := by decide +kernel

/-- The swap, with that lock. -/
def openableSwap : Script := { swap with lock := openable }

/-- A token that the swap owns. -/
def openableToken : Token Plain := ⟨openableSwap.toIdentity, ⟨⟨5⟩⟩⟩

/-- The transfer by which the recipient claims the token. -/
def claiming : TransferAction Plain :=
  (passOn lockedId openableToken recipient.identity).disclose [⟨openable, [7]⟩]

/-- What is signed to claim the token. -/
def claimMessage : Bytes := TokenRequest.signedContent.encode ([], [claiming.toBytes], "claim")

/-- The request that claims the token. -/
def claimRequest : TokenRequest :=
  requestTransfer claiming (Suite.sign Plain (.ofNat 32 1) claimMessage)

set_option maxRecDepth 4096 in
theorem openableSwap_fits : openableSwap.Fits := ⟨by decide, by decide, by decide, by decide⟩

set_option maxRecDepth 4096 in
theorem claiming_fits : claiming.Fits where
  countInputs := by decide
  inputs := List.forall_mem_singleton.mpr ⟨by decide, by decide⟩
  countOutputs := by decide
  outputs := List.forall_mem_singleton.mpr openableSwap_fits.recipient
  proof := by decide
  metadata := by decide
  countExtraSigners := by decide
  extraSigners := nofun

set_option maxRecDepth 8192 in
theorem length_claimMessage : claimMessage.length ≤ Wire.sizeLimit := by decide

/-- The claim is acceptable before the deadline, where the token lies. -/
theorem claimRequest_acceptable {ledger : Ledger} (early : ledger.time < 10)
    (stored : ledger.state? lockedId = some openableToken.toBytes) :
    claimRequest.Acceptable parameters ledger "claim" claimMessage ⟨[], [claiming]⟩ := by
  have isScript : Script.isScript openableToken.owner = true :=
    Script.isScript_wrap .script openableSwap_fits.raw
  have read : Script.ofIdentity openableToken.owner = .ok openableSwap :=
    Script.ofIdentity_toIdentity openableSwap_fits
  have spender : openableSwap.spender ledger.time = recipient.identity := if_pos early
  have owned : openableToken.isRedeemed = false := by decide
  have apart : ([⟨openable, [7]⟩].map fun claim : Claim => claim.lock.hash).Nodup :=
    List.nodup_singleton openable.hash
  have mem : (⟨openable, [7]⟩ : Claim) ∈ [⟨openable, [7]⟩] := List.mem_singleton_self _
  have disclosed :=
    (passOn lockedId openableToken recipient.identity).get?_disclose apart mem
  have released : openableToken.owner.Releases ledger.time claiming := fun _ =>
    ⟨openableSwap, read, ⟨recipient.identity, openableToken.data⟩, rfl, spender.symm, fun _ =>
      ⟨[7], disclosed, isPreImage_openable⟩⟩
  have held : recipient.identity.MayHold ledger.time := fun isScript =>
    absurd (isScript_recipient.symm.trans isScript) nofun
  have written : claimRequest.messageToSign "claim" = .ok claimMessage :=
    TokenRequest.messageToSign_eq_ok_iff.mpr ⟨rfl, length_claimMessage⟩
  refine requestTransfer_acceptable rfl claiming_fits (passOn_valid stored owned released held)
    written ?_
  rw [Identity.entitledAt_script isScript read, spender]
  exact verify_recipient claimMessage

/-- A ledger at time 5 that holds the token. -/
def claimLedger : Ledger := (Ledger.empty 5).update "mint" [] [(lockedId, openableToken.toBytes)]

/-- A transfer with something else under the claim key. -/
def planted : TransferAction Plain := giveBack.disclose [⟨openable, [9]⟩]

/-- The claim is accepted, and the sender finds the pre-image behind what was planted. In a transfer that
also claims the first swap, the rule on claims is kept. -/
theorem claims_usable_openable :
    (((Validator.create parameters .default).validate claimLedger "claim" claimRequest).perform
      []).1 = .ok ⟨[], [claiming]⟩ ∧
    (∃ preImage, openable.findPreImage [planted, claiming] = some preImage ∧
      openable.isPreImage preImage = true) ∧
    Rule.checkClaim openableSwap lockedId ⟨recipient.identity, openableToken.data⟩
      (giveBack.disclose [⟨openable, [7]⟩, ⟨swap.lock, [9]⟩]).metadata = .ok () := by
  have accepted : (((Validator.create parameters .default).validate claimLedger "claim"
      claimRequest).perform []).1 = .ok ⟨[], [claiming]⟩ :=
    Validator.validate_eq_ok_iff.mpr
      ⟨_, claimRequest_acceptable (by decide) SortedMap.get?_insert_self⟩
  obtain ⟨-, found, -, together⟩ := HashLock.claims_usable (P := Plain)
  refine ⟨accepted, ?_, ?_⟩
  · obtain ⟨script, read, finds⟩ := found parameters .default [] claimLedger "claim" claimRequest _
      accepted claiming (List.mem_singleton_self _) ⟨lockedId, openableToken⟩
      (List.mem_singleton_self _) (Script.isScript_wrap .script openableSwap_fits.raw)
    obtain rfl : openableSwap = script :=
      Except.ok.inj ((Script.ofIdentity_toIdentity openableSwap_fits).symm.trans read)
    exact finds (by decide) [planted, claiming] (List.mem_cons_of_mem _ (List.mem_singleton_self _))
  · exact (together giveBack [⟨openable, [7]⟩, ⟨swap.lock, [9]⟩] (by decide) ⟨openable, [7]⟩
      List.mem_cons_self isPreImage_openable).2 openableSwap lockedId _ rfl rfl

end Plain

end ConfidentialToken
