import ConfidentialToken.Proofs.Wire.Objects
import ConfidentialToken.Proofs.Wire.Proofs
import ConfidentialToken.Proofs.Wire.Reading

/-!
# Codecs that read only what they write

`Exact codec` says that a value is read only from the bytes that are written for it, so that no other
spelling of it is accepted. Every shape keeps the law. It needs of numbers, texts, points and proofs that
their own readers take one spelling only, and of alternatives that none is listed twice.

Maps are not exact: their reader takes entries in any order, and more than once.
-/

namespace ConfidentialToken

/-! ## Leaves -/

/-- The block that a number of the width was read from is the one it is written as. -/
theorem Block.ofNat_toNat {n : Nat} (block : Block n) : Block.ofNat n block.toNat = block := by
  obtain ⟨bytes, length⟩ := block
  subst length
  exact Subtype.ext (Bytes.littleEndian_toNat bytes)

theorem Block.toNat_lt {n : Nat} (block : Block n) : block.toNat < Nat.pow 256 n := by
  obtain ⟨bytes, length⟩ := block
  subst length
  exact Bytes.toNat_lt bytes

/-- The bytes that read as a text are the bytes of the text. -/
theorem Bytes.ofText_of_toText? {bytes : Bytes} {text : String} (h : toText? bytes = some text) :
    ofText text = bytes := by
  unfold toText? String.fromUTF8? at h
  split at h
  · cases h
    rfl
  · cases h

namespace RangeProof

/-- Blocks that are cut from bytes make up the bytes. -/
theorem flatMap_of_blocks? {count : Nat} {bytes : Bytes} {cut : List (Block 32)}
    (h : blocks? count bytes = some cut) : cut.flatMap Block.bytes = bytes := by
  induction count generalizing bytes cut with
  | zero =>
    cases bytes with
    | nil =>
      cases h
      rfl
    | cons => cases h
  | succ count ih =>
    obtain ⟨first, read, h⟩ := Option.bind_eq_some_iff.mp h
    obtain ⟨rest, others, h⟩ := Option.bind_eq_some_iff.mp h
    cases h
    have head : first.bytes = bytes.take 32 := by
      unfold Block.ofBytes? at read
      split at read
      · cases read
        rfl
      · cases read
    rw [List.flatMap_cons, ih others, head, List.take_append_drop]

/-- Rounds that are taken from blocks make up the blocks, with the two at the end. -/
theorem flatMap_of_rounds? {cut : List (Block 32)} {rounds : List (Block 32 × Block 32)}
    {a b : Block 32} (h : rounds? cut = some (rounds, a, b)) :
    rounds.flatMap (fun (left, right) => [left, right]) ++ [a, b] = cut := by
  fun_induction rounds? cut generalizing rounds with
  | case1 =>
    cases h
    rfl
  | case2 left right rest _ ih =>
    obtain ⟨⟨others, last⟩, read, h⟩ := Option.bind_eq_some_iff.mp h
    cases h
    rw [List.flatMap_cons, List.append_assoc, ih read]
    rfl
  | case3 => cases h

/-- The blocks that an argument is read from are those it is written as. -/
theorem blocks_of_argument? {cut : List (Block 32)} {argument : InnerProductArgument}
    (h : argument? cut = some argument) :
    argument.rounds.flatMap (fun (left, right) => [left, right]) ++
      [argument.a.toBlock, argument.b.toBlock] = cut := by
  obtain ⟨⟨rounds, first, second⟩, taken, h⟩ := Option.bind_eq_some_iff.mp h
  dsimp only at h
  split at h
  · obtain ⟨a, readA, h⟩ := Option.bind_eq_some_iff.mp h
    obtain ⟨b, readB, h⟩ := Option.bind_eq_some_iff.mp h
    cases h
    rw [Scalar.toBlock_of_ofBlock? readA, Scalar.toBlock_of_ofBlock? readB]
    exact flatMap_of_rounds? taken
  · cases h

/-- The bytes that read as a range proof are the bytes of the proof. -/
theorem toBytes_of_ofBytes? {bytes : Bytes} {proof : RangeProof} (h : ofBytes? bytes = some proof) :
    proof.toBytes = bytes := by
  obtain ⟨cut, taken, h⟩ := Option.bind_eq_some_iff.mp h
  rw [← flatMap_of_blocks? taken, toBytes]
  congr 1
  split at h
  · next rest _ =>
    obtain ⟨evaluation, readE, h⟩ := Option.bind_eq_some_iff.mp h
    obtain ⟨evaluationBlinding, readEB, h⟩ := Option.bind_eq_some_iff.mp h
    obtain ⟨vectorBlinding, readVB, h⟩ := Option.bind_eq_some_iff.mp h
    obtain ⟨argument, readArgument, h⟩ := Option.bind_eq_some_iff.mp h
    cases h
    simp only [blocks, Scalar.toBlock_of_ofBlock? readE, Scalar.toBlock_of_ofBlock? readEB,
      Scalar.toBlock_of_ofBlock? readVB, List.append_assoc, blocks_of_argument? readArgument]
    rfl
  · cases h

end RangeProof

namespace Wire.Codec

variable {α β : Type}

/-- What is read of a value is what is written for it. -/
def Exact (codec : Codec α) : Prop :=
  ∀ ⦃bytes value rest⦄, codec.decode bytes = .ok (value, rest) → bytes = codec.encode value ++ rest

/-- A value that is read from all bytes is written as these bytes. -/
theorem Exact.encode_of_read {codec : Codec α} (h : codec.Exact) {bytes : Bytes} {value : α}
    (read : codec.read bytes = .ok value) : codec.encode value = bytes := by
  have whole := h (decode_of_read read)
  rw [whole, List.append_nil]

/-! ## Shapes -/

theorem Exact.pair {first : Codec α} {second : Codec β} (ha : first.Exact) (hb : second.Exact) :
    (first.pair second).Exact := by
  intro bytes value rest decoded
  obtain ⟨between, hfirst, hsecond⟩ := decode_pair_eq_ok_iff.mp decoded
  rw [ha hfirst, hb hsecond]
  exact (List.append_assoc _ _ _).symm

theorem Exact.via {codec : Codec α} {make : α → β} {unmake : β → α} (h : codec.Exact)
    (inverse : ∀ a, unmake (make a) = a) : (codec.via make unmake).Exact := by
  intro bytes value rest decoded
  obtain ⟨a, read, rfl⟩ := decode_via_eq_ok_iff.mp decoded
  show bytes = codec.encode (unmake (make a)) ++ rest
  rw [inverse, h read]

theorem Exact.refine {codec : Codec α} {make : α → Except Fault β} {unmake : β → α} (h : codec.Exact)
    (inverse : ∀ a b, make a = .ok b → unmake b = a) : (codec.refine make unmake).Exact := by
  intro bytes value rest decoded
  obtain ⟨a, read, made⟩ := decode_refine_eq_ok_iff.mp decoded
  show bytes = codec.encode (unmake value) ++ rest
  rw [inverse a value made, h read]

theorem Exact.option {codec : Codec α} (h : codec.Exact) : codec.option.Exact := by
  intro bytes value rest decoded
  obtain ⟨rfl, rfl⟩ | ⟨a, after, rfl, rfl, read⟩ := decode_option_eq_ok_iff.mp decoded
  · rfl
  · rw [h read]
    rfl

theorem exact_block (n : Nat) : (block n).Exact :=
  fun _ _ _ decoded => decode_block_eq_ok_iff.mp decoded

theorem exact_length : length.Exact := (exact_block 8).via Block.ofNat_toNat

/-- Values that are read one after the other are written so. -/
theorem Exact.flatMap_of_readsAll {codec : Codec α} (h : codec.Exact) {values : List α}
    {bytes rest : Bytes} (all : codec.ReadsAll values bytes rest) :
    bytes = values.flatMap codec.encode ++ rest := by
  induction all with
  | nil => rfl
  | cons first _ ih => rw [h first, ih, List.flatMap_cons, List.append_assoc]

theorem Exact.list {codec : Codec α} (h : codec.Exact) : codec.list.Exact := by
  intro bytes values rest decoded
  obtain ⟨after, count, all⟩ := decode_list_eq_ok_iff.mp decoded
  rw [exact_length count, h.flatMap_of_readsAll all]
  exact (List.append_assoc _ _ _).symm

theorem exact_sized (short : Fault) : (sized short).Exact := by
  intro bytes value rest decoded
  rw [exact_length (decode_sized_eq_ok_iff.mp decoded)]
  exact (List.append_assoc _ _ _).symm

theorem exact_bytes : bytes.Exact := exact_sized _

theorem exact_u64 : u64.Exact := by
  refine (exact_block 8).via fun block => ?_
  rw [UInt64.toNat_ofNat_of_lt' block.toNat_lt, Block.ofNat_toNat]

theorem exact_text : text.Exact := by
  refine (exact_sized _).refine fun bytes text made => ?_
  unfold readText at made
  split at made
  · next read =>
    cases made
    exact Bytes.ofText_of_toText? read
  · cases made

theorem exact_choice [DecidableEq α] {all : List α} (once : all.Nodup) : (choice all).Exact := by
  refine (exact_block 4).refine fun block value made => ?_
  split at made
  · next found =>
    cases made
    obtain ⟨inside, rfl⟩ := List.getElem?_eq_some_iff.mp found
    rw [once.idxOf_getElem, Block.ofNat_toNat]
  · cases made

theorem exact_scalar : scalar.Exact := by
  refine (exact_block 32).refine fun block value made => ?_
  split at made
  · next read =>
    cases made
    exact Scalar.toBlock_of_ofBlock? read
  · cases made

theorem exact_point {P : Type} [PointGroup P] [PointGroup.LawfulEncoding P] (fault : Fault) :
    (point P fault).Exact := by
  refine (exact_block 32).refine fun block value made => ?_
  split at made
  · next read =>
    cases made
    exact PointGroup.LawfulEncoding.encode_of_decode read
  · cases made

theorem exact_rangeProof : rangeProof.Exact := by
  refine (exact_sized _).refine fun bytes proof made => ?_
  split at made
  · next read =>
    cases made
    exact RangeProof.toBytes_of_ofBytes? read
  · cases made

end Wire.Codec

end ConfidentialToken
