import ConfidentialToken.Proofs.Suite.Plain
import ConfidentialToken.Proofs.ZeroKnowledge.Completeness

/-!
# What a challenge is bound to

A challenge is drawn from what was absorbed before it, and a range proof goes on from what was absorbed
for it. So a proof speaks of one statement only if no other statement is absorbed in the same way. The
transcript of a statement has absorbed its entries in order, each as a label, a length and a message, and
nothing else. Of these entries it is shown, for tokens of any number, that the kind of the statement and
all its parts can be read off, also when more entries follow. A list of points needs no bound for this.
Its number is absorbed as one of 64 bits, but the label of the next entry ends it as well.

What the permutation makes of what is absorbed is not looked at. That it does not give one challenge to
two lists of entries is a matter of the hash.
-/

namespace ConfidentialToken

/-! ## Entries -/

/-- Only the residue of a number is written where the number does not fit. -/
theorem Bytes.littleEndian_mod (width n : Nat) :
    littleEndian width (n % Nat.pow 256 width) = littleEndian width n := by
  induction width generalizing n with
  | zero => rfl
  | succ width ih =>
    have lowest : UInt8.ofNat (n % (Nat.pow 256 width * 256)) = UInt8.ofNat n := by
      apply UInt8.toNat.inj
      rw [UInt8.toNat_ofNat', UInt8.toNat_ofNat']
      exact Nat.mod_mod_of_dvd n (Nat.dvd_mul_left _ _)
    have others : n % (Nat.pow 256 width * 256) / 256 = n / 256 % Nat.pow 256 width :=
      Nat.mod_mul_left_div_self n 256 _
    show UInt8.ofNat (n % (Nat.pow 256 width * 256)) ::
      littleEndian width (n % (Nat.pow 256 width * 256) / 256) = _
    rw [lowest, others, ih]
    rfl

namespace Entry

variable {label label' : String}

theorem number_inj {n m : UInt64} :
    number label n.toNat = number label' m.toNat ↔ label = label' ∧ n = m := by
  have forms : Bytes.littleEndian 8 n.toNat = Bytes.littleEndian 8 m.toNat ↔ n = m := by
    refine ⟨fun same => ?_, fun same => same ▸ rfl⟩
    have read := congrArg Bytes.toNat same
    rw [Bytes.toNat_littleEndian n.toNat_lt, Bytes.toNat_littleEndian m.toNat_lt] at read
    exact UInt64.toNat.inj read
  rw [number, number, mk.injEq, forms]

/-- A number is absorbed as one of 64 bits. -/
theorem number_ofNat (label : String) (n : Nat) :
    number label (UInt64.ofNat n).toNat = number label n := by
  rw [number, UInt64.toNat_ofNat']
  exact congrArg (mk label) (Bytes.littleEndian_mod 8 n)

theorem domain_inj {name name' : Bytes} :
    Transcript.domain name = Transcript.domain name' ↔ name = name' := by
  rw [Transcript.domain, Transcript.domain, mk.injEq, and_iff_right rfl]

section

variable {P : Type} [PointGroup P] [PointGroup.LawfulEncoding P]

theorem point_inj {p q : P} :
    (point label p : Entry) = point label' q ↔ label = label' ∧ p = q := by
  have forms : (PointGroup.encode p).bytes = (PointGroup.encode q).bytes ↔ p = q :=
    Subtype.ext_iff.symm.trans PointGroup.LawfulEncoding.encode_inj
  rw [point, point, block, block, mk.injEq, forms]

variable {ps qs : List P} {next next' : Entry} {rest rest' : List Entry}

/-- The points of a list can be told from what follows, if that has another label. -/
theorem map_point_append_inj (ends : next.label ≠ label) (ends' : next'.label ≠ label) :
    ps.map (point label) ++ next :: rest = qs.map (point label) ++ next' :: rest' ↔
      ps = qs ∧ next :: rest = next' :: rest' := by
  have apart (p : P) {next : Entry} (ends : next.label ≠ label) : point label p ≠ next :=
    fun same => ends (congrArg Entry.label same).symm
  induction ps generalizing qs with
  | nil =>
    cases qs with
    | nil => simp
    | cons q qs => simp [(apart q ends).symm]
  | cons p ps ih =>
    cases qs with
    | nil => simp [apart p ends']
    | cons q qs => simp [point_inj, ih, and_assoc]

/-- The same with their number in front. -/
theorem points_append_inj (ends : next.label ≠ label) (ends' : next'.label ≠ label) :
    points label ps ++ next :: rest = points label qs ++ next' :: rest' ↔
      ps = qs ∧ next :: rest = next' :: rest' := by
  rw [points, points, List.cons_append, List.cons_append, List.cons.injEq,
    map_point_append_inj ends ends', and_iff_right_of_imp]
  rintro ⟨rfl, -⟩
  rfl

end

end Entry

/-! ## Statements -/

theorem Commitment.point_inj {P : Type} {c d : Commitment P} : c.point = d.point ↔ c = d := by
  obtain ⟨p⟩ := c
  obtain ⟨q⟩ := d
  rw [mk.injEq]

theorem Commitment.map_point_inj {P : Type} {cs ds : List (Commitment P)} :
    cs.map point = ds.map point ↔ cs = ds :=
  List.map_inj_right fun _ _ => point_inj.mp

/-- What a proof shows, with the nonce point of a proof that has one. -/
inductive Statement (P : Type) where
  /-- A commitment has a type and no value; the proof comes with tokens. -/
  | sameType (g : Generators P) (tokens : List (Commitment P)) (typeCommitment : Commitment P)
    (nonce : P)
  /-- Inputs and outputs balance under a type commitment: what is left is a blinding alone. -/
  | balance (inputs outputs : List (Commitment P)) (typeCommitment difference : Commitment P)
    (nonce : P)
  /-- The commitment at a place has a value in range. -/
  | range (index : UInt64) (commitment : Commitment P)

namespace Statement

variable {P : Type} [PointGroup P]

/-- What is absorbed for a statement. -/
def entries : Statement P → List Entry
  | sameType g tokens typeCommitment nonce => SameTypeProof.statement g tokens typeCommitment nonce
  | balance inputs outputs typeCommitment difference nonce =>
    ZeroValueProof.statement (TransferProof.balanceContext inputs outputs typeCommitment) difference
      nonce
  | range index commitment => RangeProofs.statement index.toNat commitment

/-- The transcript that has absorbed a statement. -/
def transcript (s : Statement P) : Transcript := .ofEntries s.entries

/-- The challenge of a statement. -/
def challenge (s : Statement P) : Scalar := (s.transcript.challengeScalar "c").1

end Statement

section

variable {P : Type} [PointGroup P] [PointGroup.LawfulEncoding P] {more more' : List Entry}

theorem SameTypeProof.statement_append_inj {g g' : Generators P} {tokens tokens' : List (Commitment P)}
    {c c' : Commitment P} {nonce nonce' : P} :
    statement g tokens c nonce ++ more = statement g' tokens' c' nonce' ++ more' ↔
      g = g' ∧ tokens = tokens' ∧ c = c' ∧ nonce = nonce' ∧ more = more' := by
  obtain ⟨t, v, b⟩ := g
  obtain ⟨t', v', b'⟩ := g'
  have ends (p : P) : (Entry.point "CT" p).label ≠ "tokens" := show "CT" ≠ "tokens" by decide
  simp only [statement, Generators.toList, List.map_cons, List.map_nil, List.cons_append,
    List.nil_append, List.append_assoc, List.cons.injEq, Entry.points_append_inj (ends _) (ends _),
    Entry.point_inj, Commitment.map_point_inj, Commitment.point_inj, Generators.mk.injEq, true_and,
    and_assoc]

theorem ZeroValueProof.statement_append_inj {inputs inputs' outputs outputs' : List (Commitment P)}
    {c c' d d' : Commitment P} {nonce nonce' : P} :
    statement (TransferProof.balanceContext inputs outputs c) d nonce ++ more =
        statement (TransferProof.balanceContext inputs' outputs' c') d' nonce' ++ more' ↔
      inputs = inputs' ∧ outputs = outputs' ∧ c = c' ∧ d = d' ∧ nonce = nonce' ∧ more = more' := by
  have inputsEnd (n : Nat) : (Entry.number "outputs" n).label ≠ "inputs" :=
    show "outputs" ≠ "inputs" by decide
  have outputsEnd (p : P) : (Entry.point "CT" p).label ≠ "outputs" :=
    show "CT" ≠ "outputs" by decide
  have outputsBegin (ps : List P) (rest : List Entry) : Entry.points "outputs" ps ++ rest =
      .number "outputs" ps.length :: (ps.map (.point "outputs") ++ rest) := rfl
  simp only [statement, TransferProof.balanceContext, List.cons_append, List.nil_append,
    List.append_assoc, List.cons.injEq, true_and]
  rw [outputsBegin, outputsBegin, Entry.points_append_inj (inputsEnd _) (inputsEnd _),
    ← outputsBegin, ← outputsBegin, Entry.points_append_inj (outputsEnd _) (outputsEnd _)]
  simp only [List.cons.injEq, Entry.point_inj, Commitment.map_point_inj, Commitment.point_inj,
    true_and]

theorem RangeProofs.statement_append_inj {i j : UInt64} {c d : Commitment P} :
    statement i.toNat c ++ more = statement j.toNat d ++ more' ↔ i = j ∧ c = d ∧ more = more' := by
  simp only [statement, List.cons_append, List.nil_append, List.cons.injEq, Entry.number_inj,
    Entry.point_inj, Commitment.point_inj, true_and]

/-- The kind and the parts of a statement can be read off what is absorbed for it, whatever is absorbed
next. -/
theorem Statement.entries_append_inj {s s' : Statement P} :
    s.entries ++ more = s'.entries ++ more' ↔ s = s' ∧ more = more' := by
  constructor
  · intro same
    -- statements of two kinds differ in the first entry, the name of their domain
    cases s with
    | sameType g tokens c nonce =>
      cases s' with
      | sameType g' tokens' c' nonce' =>
        obtain ⟨rfl, rfl, rfl, rfl, rfl⟩ := SameTypeProof.statement_append_inj.mp same
        exact ⟨rfl, rfl⟩
      | balance | range => exact absurd (Entry.domain_inj.mp (List.cons.inj same).1) (by decide)
    | balance inputs outputs c d nonce =>
      cases s' with
      | balance inputs' outputs' c' d' nonce' =>
        obtain ⟨rfl, rfl, rfl, rfl, rfl, rfl⟩ := ZeroValueProof.statement_append_inj.mp same
        exact ⟨rfl, rfl⟩
      | sameType | range => exact absurd (Entry.domain_inj.mp (List.cons.inj same).1) (by decide)
    | range i c =>
      cases s' with
      | range j d =>
        obtain ⟨rfl, rfl, rfl⟩ := RangeProofs.statement_append_inj.mp same
        exact ⟨rfl, rfl⟩
      | sameType | balance => exact absurd (Entry.domain_inj.mp (List.cons.inj same).1) (by decide)
  · rintro ⟨rfl, rfl⟩
    rfl

end

/-! ## What verifiers absorb -/

/-- The statement of a range proof at a place, however large the place is. -/
theorem Statement.entries_range {P : Type} [PointGroup P] (i : Nat) (c : Commitment P) :
    entries (.range (.ofNat i) c) = RangeProofs.statement i c := by
  show RangeProofs.statement (UInt64.ofNat i).toNat c = _
  rw [RangeProofs.statement, Entry.number_ofNat]
  rfl

namespace RangeProofs

variable {P : Type} [Suite P] {g : Generators P} {capacity bits : Nat}

/-- Range proofs are accepted from a place on when each is, from the transcript of its own statement. -/
theorem verifyFrom_eq_ok_iff {index : Nat} {proofs : List RangeProof}
    {commitments : List (Commitment P)} :
    verifyFrom g capacity bits index proofs commitments = .ok () ↔
      ∀ (i : Nat) proof c, proofs[i]? = some proof → commitments[i]? = some c →
        Suite.verifyRange g.valueBase g.blindingBase capacity
          (Statement.range (.ofNat (index + i)) c).transcript c.point bits proof = .ok () := by
  simp only [Statement.transcript, Statement.entries_range]
  induction proofs generalizing index commitments with
  | nil => exact ⟨fun _ => nofun, fun _ => rfl⟩
  | cons proof proofs ih =>
    cases commitments with
    | nil => exact ⟨fun _ _ _ _ _ => nofun, fun _ => rfl⟩
    | cons c commitments =>
      have place (i : Nat) : index + 1 + i = index + (i + 1) := by omega
      simp only [verifyFrom, Outcome.check_bind_eq_ok_iff, Outcome.inContext_eq_ok_iff,
        Outcome.mapError_eq_ok_iff, ih, place]
      constructor
      · rintro ⟨first, rest⟩ i other d there there'
        cases i with
        | zero =>
          cases there
          cases there'
          exact first
        | succ i => exact rest i other d there there'
      · intro each
        exact ⟨each 0 proof c rfl rfl, fun i => each (i + 1)⟩

theorem verify_eq_ok_iff {ranges : RangeProofs} {commitments : List (Commitment P)} :
    ranges.verify commitments g capacity bits = .ok () ↔
      ranges.proofs.length = commitments.length ∧
      ∀ (i : Nat) proof c, ranges.proofs[i]? = some proof → commitments[i]? = some c →
        Suite.verifyRange g.valueBase g.blindingBase capacity
          (Statement.range (.ofNat i) c).transcript c.point bits proof = .ok () := by
  simp only [verify, Outcome.guard_bind_eq_ok_iff, verifyFrom_eq_ok_iff, Nat.zero_add, not_not]

end RangeProofs

/-- A duplex takes in an entry: a frame of its label and its length, and then its message. -/
def Duplex.takeIn (d : Duplex) (entry : Entry) : Duplex :=
  let framed := ((d.start .frame).absorb (Bytes.ofText entry.label)).absorb
    (Bytes.littleEndian 4 entry.message.length)
  (framed.start .data).absorb entry.message

/-- A transcript has taken in the entries that were appended to it, in order. -/
theorem Transcript.duplex_foldl_append (t : Transcript) (entries : List Entry) :
    (entries.foldl append t).duplex = entries.foldl Duplex.takeIn t.duplex := by
  induction entries generalizing t with
  | nil => rfl
  | cons entry entries ih => exact ih (t.append entry)

/-- The transcript of a statement has absorbed its entries, in order, and nothing else. The challenge is
drawn from it. -/
theorem Statement.absorbs_entries {P : Type} [PointGroup P] (s : Statement P) :
    s.transcript = s.entries.foldl Transcript.append .empty ∧
    s.transcript.duplex = s.entries.foldl Duplex.takeIn (.ofProtocol "Merlin v1.0") ∧
    s.challenge = ((s.entries.foldl Transcript.append .empty).challengeScalar "c").1 :=
  ⟨rfl, Transcript.duplex_foldl_append .empty s.entries, rfl⟩

/-- The entries that are absorbed for a statement determine it, and what is absorbed after them: its kind;
the generators, the tokens in order, the type commitment and the nonce point; the inputs, the outputs,
the type commitment, what is left of the balance, and the nonce point; or the place and the commitment.
The transcript of a statement has absorbed these entries in order, each with its label, its length and
its message, and nothing else. From these transcripts verifiers draw their challenges, and range proofs
go on. -/
theorem Statement.determined_by_entries (P : Type) [Suite P] [PointGroup.LawfulEncoding P] :
    (∀ (s s' : Statement P) (more more' : List Entry),
      s.entries ++ more = s'.entries ++ more' ↔ s = s' ∧ more = more') ∧
    (∀ s : Statement P,
      s.transcript = s.entries.foldl Transcript.append .empty ∧
      s.transcript.duplex = s.entries.foldl Duplex.takeIn (.ofProtocol "Merlin v1.0") ∧
      s.challenge = ((s.entries.foldl Transcript.append .empty).challengeScalar "c").1) ∧
    (∀ (proof : SameTypeProof P) (g : Generators P) (tokens : List (Commitment P)),
      proof.verify g tokens = .ok () ↔ proof.typeCommitment.isIdentity = false ∧
        (sameType g tokens proof.typeCommitment (proof.nonce g)).challenge = proof.challenge) ∧
    (∀ (pp : PublicParameters P) (inputs outputs : List (Commitment P)) (bytes : Bytes),
      TransferProof.verify pp inputs outputs bytes = .ok () ↔ (inputs ≠ [] ∧ outputs ≠ []) ∧
        ∃ proof, TransferProof.codec.read bytes = .ok proof ∧
          let typeCommitment := proof.sameType.typeCommitment
          let difference := TransferProof.balanceCommitment inputs outputs typeCommitment
          proof.sameType.verify pp.generators (inputs ++ outputs) = .ok () ∧
          (balance inputs outputs typeCommitment difference
            (proof.balance.nonce pp.generators difference)).challenge = proof.balance.challenge ∧
          proof.ranges.verify ((inputs ++ outputs).map (· - typeCommitment)) pp.generators
            pp.bitLength pp.bitLength = .ok ()) ∧
    ∀ (ranges : RangeProofs) (commitments : List (Commitment P)) (g : Generators P)
      (capacity bits : Nat), ranges.verify commitments g capacity bits = .ok () ↔
        ranges.proofs.length = commitments.length ∧
        ∀ (i : Nat) proof c, ranges.proofs[i]? = some proof → commitments[i]? = some c →
          Suite.verifyRange g.valueBase g.blindingBase capacity
            (range (.ofNat i) c).transcript c.point bits proof = .ok () := by
  refine ⟨fun _ _ _ _ => entries_append_inj, absorbs_entries,
    fun _ _ _ => SameTypeProof.verify_eq_ok_iff, ?_, fun _ _ _ _ _ => RangeProofs.verify_eq_ok_iff⟩
  intro pp inputs outputs bytes
  simp only [TransferProof.verify_eq_ok_iff, ZeroValueProof.verify_eq_ok_iff]
  rfl

/-- A token that is moved from the inputs to the outputs, two tokens that change places, a token that is
dropped, and another place: each makes other entries. So does a statement of another kind, also if the
entries of the one were to be the beginning of those of the other. What the transcript of a place and a
commitment has absorbed is the name of the domain, the place and the commitment. -/
theorem Plain.entries_differ :
    let a : Commitment Plain := ⟨⟨1⟩⟩
    let b : Commitment Plain := ⟨⟨2⟩⟩
    (Statement.balance [a, b] [a] b a ⟨3⟩).entries ≠ (Statement.balance [a] [b, a] b a ⟨3⟩).entries ∧
    (Statement.sameType .default [a, b] a ⟨3⟩).entries ≠
      (Statement.sameType .default [b, a] a ⟨3⟩).entries ∧
    (Statement.sameType .default [a, b] a ⟨3⟩).entries ≠
      (Statement.sameType .default [a] a ⟨3⟩).entries ∧
    (Statement.range 0 a).entries ≠ (Statement.range 1 a).entries ∧
    ¬(Statement.range 0 a).entries <+: (Statement.balance [a] [b] b a ⟨3⟩).entries ∧
    (Statement.range 1 a).transcript =
      ((Transcript.empty.append ⟨"dom-sep", Bytes.ofText "private_token.range"⟩).append
        ⟨"index", [1, 0, 0, 0, 0, 0, 0, 0]⟩).append (.point "V" a.point) := by
  intro a b
  obtain ⟨determined, absorbs, -⟩ := Statement.determined_by_entries Plain
  have apart {s s' : Statement Plain} (differ : s ≠ s') : s.entries ≠ s'.entries := by
    intro same
    exact differ ((determined s s' [] []).mp (by rw [same])).1
  refine ⟨apart nofun, apart ?_, apart nofun, apart nofun, ?_, (absorbs _).1⟩
  · intro same
    obtain ⟨-, tokens, -⟩ := Statement.sameType.inj same
    have first : (1 : Scalar) = 2 := congrArg (fun c => c.point.log) (List.cons.inj tokens).1
    exact absurd first (by decide)
  · rintro ⟨more, same⟩
    cases ((determined _ _ more []).mp (same.trans (List.append_nil _).symm)).1

end ConfidentialToken
