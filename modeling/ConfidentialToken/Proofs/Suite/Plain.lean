import ConfidentialToken.Proofs.PointGroup.Encoding
import ConfidentialToken.Proofs.PointGroup.Linear

/-!
# A suite that hides nothing

Points are their own logarithms, every range proof is accepted, and a signature is the key in front of
the message. The suite keeps the laws that the theory asks of a suite, and it protects nothing: it is
there to show that what the theory assumes can be had, and to play requests through the rules.
-/

namespace ConfidentialToken

/-- A point of the plain suite, as its logarithm. -/
structure Plain where
  log : Scalar
deriving DecidableEq

namespace Plain

instance : PointGroup Plain where
  decEq := inferInstance
  zero := ⟨0⟩
  add p q := ⟨p.log + q.log⟩
  neg p := ⟨-p.log⟩
  combine terms := terms.foldr (fun (k, p) sum => ⟨k * p.log + sum.log⟩) ⟨0⟩
  encode p := p.log.toBlock
  decode block := (Scalar.ofBlock? block).map Plain.mk
  ofUniform bytes := ⟨Scalar.ofWide bytes⟩

/-- A range proof of the plain suite: it says nothing, in some number of rounds. -/
def rangeProof (rounds : Nat) : RangeProof where
  bits := default
  masks := default
  linear := default
  quadratic := default
  evaluation := 0
  evaluationBlinding := 0
  vectorBlinding := 0
  argument := {
    rounds := .replicate (rounds % 32) default
    a := 0
    b := 0
    rounds_lt := by
      rw [List.length_replicate]
      exact Nat.mod_lt _ (by decide) }

instance : Suite Plain where
  proveRange value blinding _ _ v b bits _ :=
    .ok (rangeProof (Nat.log2 bits), PointGroup.combine [(Scalar.ofNat v.toNat, value), (b, blinding)])
  verifyRange _ _ _ _ _ _ _ := .ok ()
  publicKey seed := seed
  sign seed message := seed.bytes ++ message
  verifySignature key message signature :=
    if signature = key.bytes ++ message then .ok () else .error .mismatch

theorem log_scale (k : Scalar) (p : Plain) : (PointGroup.scale k p).log = k * p.log :=
  add_zero (k * p.log)

theorem eq_of_log {p q : Plain} (same : p.log = q.log) : p = q := by
  cases p
  cases q
  cases same
  rfl

open scoped Fin.CommRing in
instance : PointGroup.Linear Plain where
  add_assoc p q r := eq_of_log (add_assoc p.log q.log r.log)
  add_comm p q := eq_of_log (add_comm p.log q.log)
  zero_add p := eq_of_log (zero_add p.log)
  neg_add p := eq_of_log (neg_add_cancel p.log)
  add_scale k l p := eq_of_log <| by
    show _ = (PointGroup.scale k p).log + (PointGroup.scale l p).log
    rw [log_scale, log_scale, log_scale, add_mul]
  scale_add k p q := eq_of_log <| by
    show _ = (PointGroup.scale k p).log + (PointGroup.scale k q).log
    rw [log_scale, log_scale, log_scale]
    exact mul_add k p.log q.log
  mul_scale k l p := eq_of_log <| by rw [log_scale, log_scale, log_scale, mul_assoc]
  one_scale p := eq_of_log <| by rw [log_scale, one_mul]
  combine_nil := rfl
  combine_cons k p terms := eq_of_log <| by
    show _ = (PointGroup.scale k p).log + (PointGroup.combine terms).log
    rw [log_scale]
    rfl

instance : PointGroup.LawfulEncoding Plain where
  decode_encode p := congrArg (Option.map Plain.mk) (Scalar.ofBlock?_toBlock p.log)
  encode_of_decode {block p} h := by
    obtain ⟨log, read, rfl⟩ := Option.map_eq_some_iff.mp h
    exact Scalar.toBlock_of_ofBlock? read

end Plain

end ConfidentialToken
