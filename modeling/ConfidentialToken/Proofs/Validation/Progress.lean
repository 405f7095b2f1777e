import ConfidentialToken.Proofs.Task
import ConfidentialToken.Validation
import Mathlib.Data.List.Forall2
import Mathlib.Data.List.Nodup

/-!
# What a check demands

A check of a request's action depends on the progress so far in two ways only: it takes signatures
from the front of the queue and it spends ids that were not spent before. `Demands` says of a check
which facts, which signers and which ids make it succeed, and that it succeeds with them. Demands add
up when checks run one after the other, so what a whole request demands is read off its rules.

Log records are left out: a check appends to them and never looks at them.
-/

namespace ConfidentialToken

variable {P : Type}

/-- The signature is one of the signer over the request's message. -/
def Setting.Signed (setting : Setting P) (signer : Identity) (signature : Bytes) : Prop :=
  setting.verify signer setting.message signature = .ok ()

/-- Taking a signature succeeds when there is one and the signer made it. -/
theorem SignatureQueue.perform_take {verify : SignatureCheck} {message : Bytes} {signer : Identity}
    {queue after : SignatureQueue} :
    (SignatureQueue.take verify message signer).perform queue = (.ok (), after) ↔
      ∃ signature, queue.rest = signature :: after.rest ∧ after.taken = queue.taken + 1 ∧
        verify signer message signature = .ok () := by
  obtain ⟨taken, rest⟩ := queue
  unfold take
  rw [Task.perform_get_bind]
  cases rest with
  | nil => simp
  | cons signature rest =>
    simp only [Task.perform_set_bind, Task.perform_lift, Outcome.inContext_eq_ok_iff,
      Outcome.asVerification_eq_ok_iff]
    constructor
    · rintro ⟨hverify, rfl⟩
      exact ⟨signature, rfl, rfl, hverify⟩
    · rintro ⟨_, hrest, htaken, hverify⟩
      obtain ⟨rfl, rfl⟩ := List.cons.inj hrest
      exact ⟨hverify, by cases after; cases htaken; rfl⟩

namespace Progress

/-- From `p` to `q`, a signature of each signer was taken in order, and the ids were spent, none of
them for the second time. -/
structure Advances (setting : Setting P) (signers : List Identity) (ids : List TokenId)
    (p q : Progress) : Prop where
  signed : ∃ taken, p.signatures.rest = taken ++ q.signatures.rest ∧
    List.Forall₂ setting.Signed signers taken
  spent : q.spent = p.spent ++ ids
  nodup : ids.Nodup
  disjoint : p.spent.Disjoint ids

/-- Whether two progresses leave the same signatures and have spent the same ids. -/
def Agree (p q : Progress) : Prop := p.signatures.rest = q.signatures.rest ∧ p.spent = q.spent

namespace Advances

variable {setting : Setting P} {signers more : List Identity} {ids others : List TokenId}
  {p q r : Progress}

/-- Nothing is demanded where nothing changes. -/
theorem nil_iff : Advances setting [] [] p q ↔ Agree p q := by
  constructor
  · rintro ⟨⟨taken, hrest, hsigned⟩, hspent, -, -⟩
    cases hsigned
    exact ⟨hrest, by rw [hspent, List.append_nil]⟩
  · rintro ⟨hrest, hspent⟩
    refine ⟨⟨[], hrest, .nil⟩, ?_, List.nodup_nil, List.disjoint_nil_right _⟩
    rw [← hspent, List.append_nil]

theorem trans (first : Advances setting signers ids p q) (second : Advances setting more others q r) :
    Advances setting (signers ++ more) (ids ++ others) p r := by
  obtain ⟨taken, hrest, hsigned⟩ := first.signed
  obtain ⟨taken', hrest', hsigned'⟩ := second.signed
  have hdisjoint := second.disjoint
  rw [first.spent, List.disjoint_append_left] at hdisjoint
  refine ⟨⟨taken ++ taken', ?_, List.rel_append hsigned hsigned'⟩, ?_, ?_, ?_⟩
  · rw [hrest, hrest', List.append_assoc]
  · rw [second.spent, first.spent, List.append_assoc]
  · exact first.nodup.append second.nodup hdisjoint.2
  · exact List.disjoint_append_right.mpr ⟨first.disjoint, hdisjoint.1⟩

/-- What two lists of demands advance is advanced by one after the other. -/
theorem split (both : Advances setting (signers ++ more) (ids ++ others) p r) :
    ∃ between, Advances setting signers ids p between ∧
      Advances setting more others between r := by
  obtain ⟨⟨taken, hrest, hsigned⟩, hspent, hnodup, hdisjoint⟩ := both
  -- the signatures of the first demands are as many as their signers
  have hfirst : List.Forall₂ setting.Signed signers (taken.take signers.length) :=
    (List.forall₂_take_append taken signers more hsigned.flip).flip
  have hsecond : List.Forall₂ setting.Signed more (taken.drop signers.length) :=
    (List.forall₂_drop_append taken signers more hsigned.flip).flip
  obtain ⟨hids, hothers, hapart⟩ := List.nodup_append'.mp hnodup
  obtain ⟨hp, hp'⟩ := List.disjoint_append_right.mp hdisjoint
  refine ⟨⟨⟨0, taken.drop signers.length ++ r.signatures.rest⟩, p.spent ++ ids, []⟩,
    ⟨⟨_, ?_, hfirst⟩, rfl, hids, hp⟩, ⟨⟨_, rfl, hsecond⟩, ?_, hothers, ?_⟩⟩
  · rw [hrest, ← List.append_assoc, List.take_append_drop]
  · rw [hspent, List.append_assoc]
  · exact List.disjoint_append_left.mpr ⟨hp', hapart⟩

/-- The demands determine what is left and what is spent. -/
theorem agree (first : Advances setting signers ids p q) (second : Advances setting signers ids p r) :
    Agree q r := by
  obtain ⟨taken, hrest, hsigned⟩ := first.signed
  obtain ⟨taken', hrest', hsigned'⟩ := second.signed
  have hlength : taken.length = taken'.length := hsigned.length_eq.symm.trans hsigned'.length_eq
  exact ⟨(List.append_inj (hrest.symm.trans hrest') hlength).2, first.spent.trans second.spent.symm⟩

theorem of_agree (same : Agree p q) (h : Advances setting signers ids p r) :
    Advances setting signers ids q r := by
  obtain ⟨hsigned, hspent, hnodup, hdisjoint⟩ := h
  rw [same.1] at hsigned
  rw [same.2] at hspent hdisjoint
  exact ⟨hsigned, hspent, hnodup, hdisjoint⟩

end Advances

end Progress

open Progress (Advances)

/-- The check succeeds exactly where the fact holds, the next signatures are those of the signers
and the ids are fresh, and then it has taken the signatures and spent the ids. -/
structure Demands (setting : Setting P) (check : Task Progress Unit) (fact : Prop)
    (signers : List Identity) (ids : List TokenId) : Prop where
  sound : ∀ {p q}, check.perform p = (.ok (), q) → fact ∧ Advances setting signers ids p q
  complete : ∀ {p q}, fact → Advances setting signers ids p q → ∃ r, check.perform p = (.ok (), r)

namespace Demands

variable {setting : Setting P} {check next : Task Progress Unit} {fact other : Prop}
  {signers more : List Identity} {ids others : List TokenId}

/-- Demands of checks that run one after the other add up. -/
theorem bind (first : Demands setting check fact signers ids)
    (second : Demands setting next other more others) :
    Demands setting (check >>= fun _ => next) (fact ∧ other) (signers ++ more) (ids ++ others) where
  sound h := by
    obtain ⟨_, between, hcheck, hnext⟩ := Task.perform_bind.mp h
    obtain ⟨hfact, hp⟩ := first.sound hcheck
    obtain ⟨hother, hq⟩ := second.sound hnext
    exact ⟨⟨hfact, hother⟩, hp.trans hq⟩
  complete h advances := by
    obtain ⟨between, hp, hq⟩ := advances.split
    -- the first check need not reach `between`: the log may differ, and the count of taken
    -- signatures, but the next check looks at neither
    obtain ⟨reached, hcheck⟩ := first.complete h.1 hp
    have same := hp.agree (first.sound hcheck).2
    obtain ⟨r, hnext⟩ := second.complete h.2 (hq.of_agree same)
    exact ⟨r, Task.perform_bind.mpr ⟨(), reached, hcheck, hnext⟩⟩

/-- The same demands, written another way. -/
theorem congr {signers' : List Identity} {ids' : List TokenId}
    (h : Demands setting check fact signers ids) (hfact : fact ↔ other) (hsigners : signers = signers')
    (hids : ids = ids') : Demands setting check other signers' ids' := by
  subst hsigners hids
  exact ⟨fun run => (h.sound run).imp_left hfact.mp, fun ho => h.complete (hfact.mpr ho)⟩

theorem inContext (context : String) (h : Demands setting check fact signers ids) :
    Demands setting (check.inContext context) fact signers ids where
  sound run := h.sound (Task.perform_inContext.mp run)
  complete hfact advances :=
    (h.complete hfact advances).imp fun _ => Task.perform_inContext.mpr

/-- A check that leaves the progress alone demands its own success. -/
theorem lift (result : Outcome Unit) : Demands setting (liftM result) (result = .ok ()) [] [] where
  sound run := by
    obtain ⟨hresult, rfl⟩ := Task.perform_lift.mp run
    exact ⟨hresult, Advances.nil_iff.mpr ⟨rfl, rfl⟩⟩
  complete hresult _ := ⟨_, Task.perform_lift.mpr ⟨hresult, rfl⟩⟩

theorem pure : Demands setting (Pure.pure () : Task Progress Unit) True [] [] where
  sound run := by
    obtain ⟨-, rfl⟩ := Task.perform_pure.mp run
    exact ⟨trivial, Advances.nil_iff.mpr ⟨rfl, rfl⟩⟩
  complete _ _ := ⟨_, Task.perform_pure.mpr ⟨rfl, rfl⟩⟩

theorem throw (e : Error) : Demands setting (MonadExcept.throw e : Task Progress Unit) False [] [] where
  sound run := (Task.perform_throw.mp run).elim
  complete := False.elim

theorem debug (message : String) : Demands setting (setting.debug message) True [] [] where
  sound run := by
    obtain ⟨_, -, rfl⟩ := Task.perform_onPart.mp run
    exact ⟨trivial, Advances.nil_iff.mpr ⟨rfl, rfl⟩⟩
  complete _ _ := ⟨_, Task.perform_onPart.mpr ⟨_, Task.perform_debug.mpr rfl, rfl⟩⟩

/-- Taking a signature demands one of the signer. -/
theorem requireSignature (signer : Identity) :
    Demands setting (setting.requireSignature signer) True [signer] [] where
  sound {p q} run := by
    obtain ⟨queue, taken, rfl⟩ := Task.perform_onPart.mp run
    obtain ⟨signature, hrest, -, hsigned⟩ := SignatureQueue.perform_take.mp taken
    exact ⟨trivial, ⟨[signature], hrest, .cons hsigned .nil⟩, (List.append_nil _).symm,
      List.nodup_nil, List.disjoint_nil_right _⟩
  complete {p q} _ advances := by
    obtain ⟨taken, hrest, hsigned⟩ := advances.signed
    obtain ⟨signature, _, hverify, hnil, rfl⟩ := List.forall₂_cons_left_iff.mp hsigned
    cases hnil
    have run : (SignatureQueue.take setting.verify setting.message signer).perform p.signatures =
        (.ok (), ⟨p.signatures.taken + 1, q.signatures.rest⟩) :=
      SignatureQueue.perform_take.mpr ⟨signature, hrest, rfl, hverify⟩
    exact ⟨_, Task.perform_onPart.mpr ⟨_, run, rfl⟩⟩

/-- Demands of a check for each entry of a list. -/
theorem forM {α : Type} {items : List α} {check : α → Task Progress Unit} {fact : α → Prop}
    {signers : α → List Identity} {ids : α → List TokenId}
    (h : ∀ item ∈ items, Demands setting (check item) (fact item) (signers item) (ids item)) :
    Demands setting (items.forM check) (∀ item ∈ items, fact item) (items.flatMap signers)
      (items.flatMap ids) := by
  induction items with
  | nil => exact pure.congr (by simp) rfl rfl
  | cons item items ih =>
    have first := h item List.mem_cons_self
    have rest := ih fun i hi => h i (List.mem_cons_of_mem _ hi)
    exact (first.bind rest).congr List.forall_mem_cons.symm rfl rfl

end Demands

end ConfidentialToken
