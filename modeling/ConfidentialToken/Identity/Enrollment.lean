import ConfidentialToken.Script

/-!
# Enrollment ids

The enrollment id behind an identity, as its audit info tells it. A script stands for its recipient,
and so on through scripts in scripts. The search ends because the audit info of a recipient is
shorter than the audit info that it is part of.
-/

namespace ConfidentialToken

namespace Wire.Codec

/-- A length is read from eight bytes. -/
theorem length_decode_rest {b rest : Bytes} {n : Nat} (h : length.decode b = .ok (n, rest)) :
    rest.length + 8 = b.length := by
  simp only [length, via, block, List.splitAt_eq] at h
  split at h
  · cases h
  · next heq =>
    split at heq
    · next hblock =>
      have hlength := Block.length_of_ofBytes? hblock
      simp only [Except.ok.injEq, Prod.mk.injEq] at heq h
      obtain ⟨-, rfl⟩ := heq
      obtain ⟨-, rfl⟩ := h
      simp only [List.length_take] at hlength
      simp only [List.length_drop]
      omega
    · cases heq

/-- Sized bytes and what follows them are eight bytes less than what they were read from. -/
theorem sized_decode_rest {short : Fault} {b value rest : Bytes}
    (h : (sized short).decode b = .ok (value, rest)) :
    value.length + rest.length + 8 = b.length := by
  simp only [sized] at h
  split at h
  · cases h
  · next count after hlength =>
    have := length_decode_rest hlength
    simp only [List.splitAt_eq] at h
    split at h
    · simp only [Except.ok.injEq, Prod.mk.injEq] at h
      obtain ⟨rfl, rfl⟩ := h
      simp only [List.length_take, List.length_drop] at *
      omega
    · cases h

/-- Reading succeeds when decoding leaves nothing. -/
theorem decode_of_read {α : Type} {codec : Codec α} {b : Bytes} {value : α}
    (h : codec.read b = .ok value) : codec.decode b = .ok (value, []) := by
  unfold read ofBytes at h
  split at h
  · next heq =>
    obtain rfl := Except.ok.inj h
    exact heq
  · cases h
  · cases h

end Wire.Codec

/-- A context changes no result. -/
theorem Outcome.inContext_eq_ok {α : Type} {context : String} {result : Outcome α} {value : α}
    (h : result.inContext context = .ok value) : result = .ok value := by
  cases result with
  | ok a => exact h
  | error e => cases h

/-- The audit info of a recipient is shorter than the one it is part of. -/
theorem ScriptInfo.recipient_length_lt {bytes : Bytes} {info : ScriptInfo}
    (h : ScriptInfo.ofBytes bytes = .ok info) : info.recipient.length < bytes.length := by
  have h := Wire.Codec.decode_of_read (Outcome.inContext_eq_ok h)
  simp only [codec, Wire.Codec.via, Wire.Codec.pair, Wire.Codec.bytes] at h
  split at h
  · cases h
  · next heq =>
    split at heq
    · cases heq
    · next hs =>
      split at heq
      · cases heq
      · next hr =>
        simp only [Except.ok.injEq, Prod.mk.injEq] at heq h
        obtain ⟨rfl, rfl⟩ := heq
        obtain ⟨rfl, rfl⟩ := h
        have hs := Wire.Codec.sized_decode_rest hs
        have hr := Wire.Codec.sized_decode_rest hr
        simp only [List.length_nil] at hr
        dsimp only
        omega

/-- Finds the enrollment id of an identity from its audit info. -/
abbrev EnrollmentLookup := Identity → Bytes → Outcome String

/-- The enrollment id of an identity. Empty audit info tells the empty id; the id of a script is that
of its recipient. -/
def Identity.enrollmentId (identity : Identity) (auditInfo : Bytes) : Outcome String :=
  if auditInfo = [] then .ok ""
  else
    match TypedIdentity.parse identity with
    | .error e => .error e
    | .ok typed =>
      match typed.kind with
      | .error e => .error e
      | .ok .script =>
        match Script.ofTyped typed with
        | .error e => .error e
        | .ok script =>
          match _h : ScriptInfo.ofBytes auditInfo with
          | .error e => .error e
          | .ok info => enrollmentId script.recipient info.recipient
      | .ok _ => (AuditInfo.ofBytes auditInfo).map AuditInfo.enrollmentId
  termination_by auditInfo.length
  decreasing_by exact ScriptInfo.recipient_length_lt _h

end ConfidentialToken
