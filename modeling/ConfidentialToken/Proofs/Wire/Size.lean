import ConfidentialToken.Proofs.Wire.Objects
import Mathlib.Algebra.Order.BigOperators.Group.List
import Mathlib.Algebra.Order.Ring.Nat

/-!
# How much is read

`Spans codec size` bounds what a codec reads from below: a value uses up at least `size` bytes of the
input. With the length of the written form as the size, a value that was read is written again in no
more bytes than it was read from. So an object inside a message is never longer than the message, and
a bound on messages bounds all that is in them.
-/

namespace ConfidentialToken.Wire.Codec

variable {α β : Type}

/-- A value and what is left when it is read are together no longer than the input. -/
def Spans (codec : Codec α) (size : α → Nat) : Prop :=
  ∀ ⦃bytes value rest⦄, codec.decode bytes = .ok (value, rest) → size value + rest.length ≤ bytes.length

theorem Spans.mono {codec : Codec α} {size other : α → Nat} (h : codec.Spans size)
    (le : ∀ value, other value ≤ size value) : codec.Spans other := by
  intro bytes value rest decoded
  have spans := h decoded
  have smaller := le value
  omega

/-- What is read of all bytes is no longer than they are. -/
theorem Spans.of_read {codec : Codec α} {size : α → Nat} (h : codec.Spans size) {bytes : Bytes}
    {value : α} (read : codec.read bytes = .ok value) : size value ≤ bytes.length :=
  h (decode_of_read read)

/-! ## Shapes -/

theorem Spans.pair {first : Codec α} {second : Codec β} {size : α → Nat} {other : β → Nat}
    (ha : first.Spans size) (hb : second.Spans other) :
    (first.pair second).Spans fun value => size value.1 + other value.2 := by
  intro bytes value rest decoded
  obtain ⟨between, hfirst, hsecond⟩ := decode_pair_eq_ok_iff.mp decoded
  have firstSpans := ha hfirst
  have secondSpans := hb hsecond
  dsimp only
  omega

theorem Spans.via {codec : Codec α} {make : α → β} {unmake : β → α} {size : β → Nat}
    (h : codec.Spans fun a => size (make a)) : (codec.via make unmake).Spans size := by
  intro bytes value rest decoded
  obtain ⟨a, read, rfl⟩ := decode_via_eq_ok_iff.mp decoded
  exact h read

theorem Spans.refine {codec : Codec α} {make : α → Except Fault β} {unmake : β → α} {bound : Nat}
    (h : codec.Spans fun _ => bound) : (codec.refine make unmake).Spans fun _ => bound := by
  intro bytes value rest decoded
  obtain ⟨a, read, -⟩ := decode_refine_eq_ok_iff.mp decoded
  exact h read

theorem spans_block (n : Nat) : (block n).Spans fun _ => n := by
  intro bytes value rest decoded
  have length : value.bytes.length = n := value.property
  rw [decode_block_eq_ok_iff.mp decoded, List.length_append, length]

theorem spans_u64 : u64.Spans fun _ => 8 := .via (spans_block 8)

theorem spans_sized (short : Fault) : (sized short).Spans fun value => 8 + value.length := by
  intro bytes value rest decoded
  have consumed := sized_decode_rest decoded
  dsimp only
  omega

theorem spans_text : text.Spans fun _ => 0 :=
  .refine ((spans_sized _).mono fun _ => Nat.zero_le _)

theorem spans_point (P : Type) [PointGroup P] (fault : Fault) : (point P fault).Spans fun _ => 32 :=
  .refine (spans_block 32)

/-- Values that are read one after the other span the sum of what each spans. -/
theorem Spans.sum_of_readsAll {codec : Codec α} {size : α → Nat} (h : codec.Spans size)
    {values : List α} {bytes rest : Bytes} (all : codec.ReadsAll values bytes rest) :
    (values.map size).sum + rest.length ≤ bytes.length := by
  induction all with
  | nil => simp
  | cons first _ ih =>
    have one := h first
    rw [List.map_cons, List.sum_cons]
    omega

theorem Spans.list {codec : Codec α} {size : α → Nat} (h : codec.Spans size) :
    codec.list.Spans fun values => (values.map size).sum := by
  intro bytes values rest decoded
  obtain ⟨after, count, all⟩ := decode_list_eq_ok_iff.mp decoded
  have counted := length_decode_rest count
  have spans := h.sum_of_readsAll all
  dsimp only
  omega

/-- Where a list inside a value spans the sum of its entries, each entry is inside what was read. -/
theorem Spans.le_of_mem {codec : Codec α} {items : α → List β} {size : β → Nat}
    (h : codec.Spans fun value => ((items value).map size).sum) {bytes : Bytes} {value : α}
    (read : codec.read bytes = .ok value) : ∀ item ∈ items value, size item ≤ bytes.length :=
  fun _ mem => (List.le_sum_of_mem (List.mem_map_of_mem mem)).trans (h.of_read read)

/-- Where the sizes of the values do not matter, that of the list does not. -/
theorem Spans.list_zero {codec : Codec α} (h : codec.Spans fun _ => 0) :
    codec.list.Spans fun _ => 0 :=
  h.list.mono fun _ => Nat.zero_le _

theorem spans_map : map.Spans fun _ => 0 :=
  .via (.list_zero (spans_text.pair ((spans_sized _).mono fun _ => Nat.zero_le _)))

end ConfidentialToken.Wire.Codec

namespace ConfidentialToken

open Wire.Codec

/-! ## Tokens and actions -/

theorem Identity.spans : Identity.codec.Spans fun identity => 8 + identity.bytes.length :=
  .via (spans_sized _)

theorem Identity.length_encode (identity : Identity) :
    (codec.encode identity).length = 8 + identity.bytes.length :=
  length_encode_bytes identity.bytes

variable {P : Type} [PointGroup P]

/-- The byte form of a token: the length of the owner, the owner, and a point. -/
theorem Token.length_toBytes (token : Token P) :
    token.toBytes.length = 8 + token.owner.bytes.length + 32 := by
  obtain ⟨owner, data⟩ := token
  have dataLength : (Commitment.codec.encode data).length = 32 := (PointGroup.encode data.point).2
  show (Identity.codec.encode owner ++ Commitment.codec.encode data).length = _
  rw [List.length_append, Identity.length_encode, dataLength]

/-- A token is written in no more bytes than it was read from. -/
theorem Token.spans : Token.codec.Spans fun token : Token P => token.toBytes.length := by
  simp only [length_toBytes]
  have point : Commitment.codec.Spans fun _ : Commitment P => 32 := .via (spans_point P _)
  exact .via (Identity.spans.pair point)

theorem ActionInput.spans : ActionInput.codec.Spans fun _ : ActionInput P => 0 := by
  have id : TokenId.codec.Spans fun _ => 0 :=
    .via ((spans_text.pair spans_u64).mono fun _ => Nat.zero_le _)
  exact .via ((id.pair Token.spans).mono fun _ => Nat.zero_le _)

/-- The outputs of an issue are written in no more bytes than it was read from. -/
theorem IssueAction.spans : IssueAction.codec.Spans fun action : IssueAction P =>
    (action.outputs.map fun output => output.toBytes.length).sum := by
  refine .via ((Identity.spans.pair (Token.spans.list.pair
    ((spans_sized _).pair spans_map))).mono ?_)
  rintro ⟨issuer, outputs, proof, metadata⟩
  dsimp only
  omega

theorem IssueAction.length_output_le {bytes : Bytes} {action : IssueAction P}
    (read : ofBytes bytes = .ok action) :
    ∀ output ∈ action.outputs, output.toBytes.length ≤ bytes.length :=
  spans.le_of_mem (Outcome.inContext_eq_ok_iff.mp read)

/-- The outputs of a transfer are written in no more bytes than it was read from. -/
theorem TransferAction.spans : TransferAction.codec.Spans fun action : TransferAction P =>
    (action.outputs.map fun output => output.toBytes.length).sum := by
  have signers : Identity.codec.list.Spans fun _ => 0 :=
    .list_zero (Identity.spans.mono fun _ => Nat.zero_le _)
  refine .via ((ActionInput.spans.list_zero.pair (Token.spans.list.pair
    ((spans_sized _).pair (spans_map.pair signers)))).mono ?_)
  rintro ⟨inputs, outputs, proof, metadata, extraSigners⟩
  dsimp only
  omega

theorem TransferAction.length_output_le {bytes : Bytes} {action : TransferAction P}
    (read : ofBytes bytes = .ok action) :
    ∀ output ∈ action.outputs, output.toBytes.length ≤ bytes.length :=
  spans.le_of_mem (Outcome.inContext_eq_ok_iff.mp read)

end ConfidentialToken
