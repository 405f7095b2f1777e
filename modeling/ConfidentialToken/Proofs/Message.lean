import ConfidentialToken.Proofs.Validation.Acceptance

/-!
# What a signed message binds

The message that issuers, owners and auditors sign is the byte form of two lists of byte strings and of
a text, each part after its length. It reads back as the parts, so a message belongs to one list of
issues, one list of transfers and one anchor: no byte can be moved from one part to another. Signatures
are no part of it. A request that is over the size limit has no message at all.
-/

namespace ConfidentialToken

open Wire (lengthBound)
open Wire.Codec

/-- Values that read back have different byte forms, unless they are the same. -/
theorem Wire.Codec.RoundTrips.encode_inj {α : Type} {codec : Wire.Codec α} {value other : α}
    (h : codec.RoundTrips value) (h' : codec.RoundTrips other)
    (same : codec.encode value = codec.encode other) : value = other := by
  have read := h.read_encode
  rw [same, h'.read_encode] at read
  exact (Except.ok.inj read).symm

namespace TokenRequest

/-- Whether the lengths in what is signed can be written. -/
structure ContentFits (issues transfers : List Bytes) (anchor : String) : Prop where
  countIssues : issues.length < lengthBound
  issues : ∀ bytes ∈ issues, bytes.length < lengthBound
  countTransfers : transfers.length < lengthBound
  transfers : ∀ bytes ∈ transfers, bytes.length < lengthBound
  anchor : (Bytes.ofText anchor).length < lengthBound

theorem roundTrips_signedContent {issues transfers : List Bytes} {anchor : String}
    (fits : ContentFits issues transfers anchor) :
    signedContent.RoundTrips (issues, transfers, anchor) :=
  .pair (.list fits.countIssues fun bytes mem => roundTrips_bytes (fits.issues bytes mem)) <|
    .pair (.list fits.countTransfers fun bytes mem => roundTrips_bytes (fits.transfers bytes mem))
      (roundTrips_text fits.anchor)

/-- The parts of a message that can be signed are within the size limit, so their lengths fit. -/
theorem contentFits_of_length_le {issues transfers : List Bytes} {anchor : String}
    (short : (signedContent.encode (issues, transfers, anchor)).length ≤ Wire.sizeLimit) :
    ContentFits issues transfers anchor := by
  -- every part is inside the message, so it is no longer than the message may be
  have parts := length_signedContent issues transfers anchor
  have anchorPart : (text.encode anchor).length = 8 + (Bytes.ofText anchor).length :=
    length_encode_sized .shortOfText _
  have countIssues := length_encode_bytes_list issues
  have countTransfers := length_encode_bytes_list transfers
  refine ⟨lt_lengthBound (by omega), fun value mem => lt_lengthBound ?_, lt_lengthBound (by omega),
    fun value mem => lt_lengthBound ?_, lt_lengthBound (by omega)⟩
  · have part := length_le_encode_bytes_list mem
    omega
  · have part := length_le_encode_bytes_list mem
    omega

/-- There is a message where its byte form is within the size limit. -/
theorem exists_messageToSign_iff {request : TokenRequest} {anchor : String} :
    (∃ message, request.messageToSign anchor = .ok message) ↔
      (signedContent.encode (request.issues, request.transfers, anchor)).length ≤
        Wire.sizeLimit := by
  simp only [messageToSign_eq_ok_iff]
  exact exists_eq_left

theorem messageToSign_congr {r₁ r₂ : TokenRequest} (anchor : String) (issues : r₁.issues = r₂.issues)
    (transfers : r₁.transfers = r₂.transfers) :
    r₁.messageToSign anchor = r₂.messageToSign anchor := by
  unfold messageToSign
  rw [issues, transfers]

theorem sign_eq_ok_iff {request signed : TokenRequest} {signer : Signer} {anchor : String} :
    request.sign signer anchor = .ok signed ↔ ∃ message,
      request.messageToSign anchor = .ok message ∧
        signed = { request with signatures := request.signatures ++ [signer.sign message] } := by
  unfold sign
  rw [Outcome.bind_eq_ok_iff]
  exact exists_congr fun message => and_congr_right fun _ =>
    ⟨fun h => (Except.ok.inj h).symm, fun h => congrArg Except.ok h.symm⟩

/-- What is signed binds the actions and the anchor. A message that a request has under an anchor is
that of another request under another anchor exactly when the issues, the transfers and the anchors are
the same; there is one unless its byte form is over the size limit; and neither signing nor the
signatures of auditors change it. -/
theorem messageToSign_binds (r₁ r₂ : TokenRequest) (a₁ a₂ : String) :
    (∀ message, r₁.messageToSign a₁ = .ok message →
      (r₂.messageToSign a₂ = .ok message ↔
        r₁.issues = r₂.issues ∧ r₁.transfers = r₂.transfers ∧ a₁ = a₂)) ∧
    (r₁.issues = r₂.issues ∧ r₁.transfers = r₂.transfers ∧ a₁ = a₂ →
      r₁.messageToSign a₁ = r₂.messageToSign a₂) ∧
    ((∃ message, r₁.messageToSign a₁ = .ok message) ↔
      (signedContent.encode (r₁.issues, r₁.transfers, a₁)).length ≤ Wire.sizeLimit) ∧
    (∀ signer anchor signed, r₁.sign signer anchor = .ok signed →
      signed.messageToSign a₁ = r₁.messageToSign a₁) ∧
    ∀ auditor signature,
      (r₁.addAuditorSignature auditor signature).messageToSign a₁ = r₁.messageToSign a₁ := by
  have sameMessage : r₁.issues = r₂.issues ∧ r₁.transfers = r₂.transfers ∧ a₁ = a₂ →
      r₁.messageToSign a₁ = r₂.messageToSign a₂ := by
    rintro ⟨issues, transfers, rfl⟩
    exact messageToSign_congr a₁ issues transfers
  refine ⟨fun message written => ⟨fun written' => ?_, fun same => ?_⟩, sameMessage,
    exists_messageToSign_iff, ?_, ?_⟩
  · obtain ⟨rfl, short⟩ := messageToSign_eq_ok_iff.mp written
    obtain ⟨same, short'⟩ := messageToSign_eq_ok_iff.mp written'
    have content := (roundTrips_signedContent (contentFits_of_length_le short)).encode_inj
      (roundTrips_signedContent (contentFits_of_length_le (same ▸ short'))) same
    obtain ⟨issues, rest⟩ := Prod.mk.inj content
    exact ⟨issues, Prod.mk.inj rest⟩
  · rw [← sameMessage same, written]
  · intro signer anchor signed h
    obtain ⟨message, -, rfl⟩ := sign_eq_ok_iff.mp h
    exact messageToSign_congr a₁ rfl rfl
  · exact fun _ _ => messageToSign_congr a₁ rfl rfl

/-- A byte moved from the first issue to the second gives another message, and so does a byte moved from
the last transfer to the anchor. -/
theorem messageToSign_moved :
    ∃ message, TokenRequest.messageToSign ⟨[[1, 2], [3]], [[97]], [], []⟩ "x" = .ok message ∧
      TokenRequest.messageToSign ⟨[[1], [2, 3]], [[97]], [], []⟩ "x" ≠ .ok message ∧
      TokenRequest.messageToSign ⟨[[1, 2], [3]], [[]], [], []⟩ "ax" ≠ .ok message := by
  obtain ⟨message, written⟩ :
      ∃ message, TokenRequest.messageToSign ⟨[[1, 2], [3]], [[97]], [], []⟩ "x" = .ok message :=
    exists_messageToSign_iff.mpr (by decide)
  refine ⟨message, written, ?_, ?_⟩
  · rw [ne_eq, (messageToSign_binds _ ⟨[[1], [2, 3]], [[97]], [], []⟩ _ "x").1 message written]
    decide
  · rw [ne_eq, (messageToSign_binds _ ⟨[[1, 2], [3]], [[]], [], []⟩ _ "ax").1 message written]
    decide

end TokenRequest

end ConfidentialToken
