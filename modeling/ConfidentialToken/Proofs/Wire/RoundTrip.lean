import ConfidentialToken.Proofs.Wire.Reading

/-!
# Codecs read back what they write

Two laws of codecs, shape by shape. `RoundTrips codec value` says that the written form of a value
reads back as the value whatever follows it; it holds of all values whose lengths eight bytes can
write. `Ensures codec Q` says that only values with the property `Q` are ever read, which is how a
length that was read is known to fit when the value is written again.

Not here: that a value has only one written form. A map does have several. Of sizes there is only what
the length in front of a sequence adds.
-/

namespace ConfidentialToken.Wire

/-- Lengths on the wire are below this. -/
def lengthBound : Nat := Nat.pow 256 8

namespace Codec

variable {α β : Type}

/-- The written form of the value reads back as the value, whatever follows. -/
def RoundTrips (codec : Codec α) (value : α) : Prop :=
  ∀ rest, codec.decode (codec.encode value ++ rest) = .ok (value, rest)

/-- Every value that is read has the property. -/
def Ensures (codec : Codec α) (Q : α → Prop) : Prop :=
  ∀ ⦃bytes value rest⦄, codec.decode bytes = .ok (value, rest) → Q value

/-- A property that is ensured can be weakened. -/
theorem Ensures.mono {codec : Codec α} {Q R : α → Prop} (h : codec.Ensures Q)
    (imp : ∀ value, Q value → R value) : codec.Ensures R :=
  fun _ _ _ read => imp _ (h read)

theorem ensures_true (codec : Codec α) : codec.Ensures fun _ => True :=
  fun _ _ _ _ => trivial

/-- What is read of all bytes is ensured as well. -/
theorem Ensures.of_read {codec : Codec α} {Q : α → Prop} (h : codec.Ensures Q) {bytes : Bytes}
    {value : α} (read : codec.read bytes = .ok value) : Q value :=
  h (decode_of_read read)

/-- A value that round-trips is read from its written form alone. -/
theorem RoundTrips.read_encode {codec : Codec α} {value : α} (h : codec.RoundTrips value) :
    codec.read (codec.encode value) = .ok value := by
  have decoded : codec.decode (codec.encode value) = .ok (value, []) := by
    simpa only [List.append_nil] using h []
  simp only [read, ofBytes, decoded]
  rfl

/-! ## Shapes made of other codecs -/

theorem RoundTrips.pair {first : Codec α} {second : Codec β} {value : α × β}
    (ha : first.RoundTrips value.1) (hb : second.RoundTrips value.2) :
    (first.pair second).RoundTrips value := by
  intro rest
  refine decode_pair_eq_ok_iff.mpr ⟨second.encode value.2 ++ rest, ?_, hb rest⟩
  rw [← ha, ← List.append_assoc]
  rfl

theorem RoundTrips.via {codec : Codec α} {make : α → β} {unmake : β → α} {value : β}
    (inverse : make (unmake value) = value) (h : codec.RoundTrips (unmake value)) :
    (codec.via make unmake).RoundTrips value :=
  fun rest => decode_via_eq_ok_iff.mpr ⟨unmake value, h rest, inverse⟩

theorem RoundTrips.refine {codec : Codec α} {make : α → Except Fault β} {unmake : β → α}
    {value : β} (inverse : make (unmake value) = .ok value)
    (h : codec.RoundTrips (unmake value)) : (codec.refine make unmake).RoundTrips value :=
  fun rest => decode_refine_eq_ok_iff.mpr ⟨unmake value, h rest, inverse⟩

theorem RoundTrips.option {codec : Codec α} {value : Option α}
    (h : ∀ a, value = some a → codec.RoundTrips a) : codec.option.RoundTrips value := by
  intro rest
  refine decode_option_eq_ok_iff.mpr ?_
  cases value with
  | none => exact .inl ⟨rfl, rfl⟩
  | some a => exact .inr ⟨a, codec.encode a ++ rest, rfl, rfl, h a rfl rest⟩

theorem Ensures.pair {first : Codec α} {second : Codec β} {Q : α → Prop} {R : β → Prop}
    (ha : first.Ensures Q) (hb : second.Ensures R) :
    (first.pair second).Ensures fun value => Q value.1 ∧ R value.2 := by
  intro bytes value rest read
  obtain ⟨between, hfirst, hsecond⟩ := decode_pair_eq_ok_iff.mp read
  exact ⟨ha hfirst, hb hsecond⟩

theorem Ensures.via {codec : Codec α} {make : α → β} {unmake : β → α} {Q : β → Prop}
    (h : codec.Ensures fun a => Q (make a)) : (codec.via make unmake).Ensures Q := by
  intro bytes value rest read
  obtain ⟨a, inner, rfl⟩ := decode_via_eq_ok_iff.mp read
  exact h inner

/-! ## Blocks and numbers -/

theorem roundTrips_block (n : Nat) (value : Block n) : (block n).RoundTrips value :=
  fun _ => decode_block_eq_ok_iff.mpr rfl

theorem roundTrips_u64 (n : UInt64) : u64.RoundTrips n := by
  refine RoundTrips.via ?_ (roundTrips_block 8 _)
  have h : n.toNat < Nat.pow 256 8 := n.toNat_lt
  show UInt64.ofNat (Bytes.toNat (Bytes.littleEndian 8 n.toNat)) = n
  rw [Bytes.toNat_littleEndian h, UInt64.ofNat_toNat]

theorem roundTrips_length {n : Nat} (h : n < lengthBound) : length.RoundTrips n :=
  .via (Bytes.toNat_littleEndian h) (roundTrips_block 8 _)

/-- A length that is read is one that eight bytes write. -/
theorem ensures_length : length.Ensures (· < lengthBound) := by
  refine Ensures.via ?_
  intro _ value _ _
  obtain ⟨bytes, hlength⟩ := value
  show Bytes.toNat bytes < Nat.pow 256 8
  rw [← hlength]
  exact Bytes.toNat_lt bytes

/-! ## Sequences -/

/-- Values that read back one by one are read one after the other. -/
theorem readsAll_flatMap {codec : Codec α} {values : List α}
    (h : ∀ value ∈ values, codec.RoundTrips value) (rest : Bytes) :
    codec.ReadsAll values (values.flatMap codec.encode ++ rest) rest := by
  induction values with
  | nil => exact .nil
  | cons value values ih =>
    obtain ⟨first, others⟩ := List.forall_mem_cons.mp h
    rw [List.flatMap_cons, List.append_assoc]
    exact .cons (first _) (ih others)

theorem RoundTrips.list {codec : Codec α} {values : List α} (fits : values.length < lengthBound)
    (h : ∀ value ∈ values, codec.RoundTrips value) : codec.list.RoundTrips values := by
  intro rest
  refine decode_list_eq_ok_iff.mpr ⟨values.flatMap codec.encode ++ rest, ?_, readsAll_flatMap h rest⟩
  rw [← roundTrips_length fits, ← List.append_assoc]
  rfl

/-- What holds of every value that is read holds of all that are read one after the other. -/
theorem Ensures.of_readsAll {codec : Codec α} {Q : α → Prop} (h : codec.Ensures Q) {values : List α}
    {bytes rest : Bytes} (all : codec.ReadsAll values bytes rest) : ∀ value ∈ values, Q value := by
  induction all with
  | nil => exact nofun
  | cons first _ ih => exact List.forall_mem_cons.mpr ⟨h first, ih⟩

theorem Ensures.list {codec : Codec α} {Q : α → Prop} (h : codec.Ensures Q) :
    codec.list.Ensures fun values => ∀ value ∈ values, Q value := by
  intro bytes values rest read
  obtain ⟨after, -, all⟩ := decode_list_eq_ok_iff.mp read
  exact h.of_readsAll all

theorem roundTrips_sized {short : Fault} {value : Bytes} (fits : value.length < lengthBound) :
    (sized short).RoundTrips value := by
  intro rest
  refine decode_sized_eq_ok_iff.mpr ?_
  rw [← roundTrips_length fits, ← List.append_assoc]
  rfl

theorem roundTrips_bytes {value : Bytes} (fits : value.length < lengthBound) :
    bytes.RoundTrips value :=
  roundTrips_sized fits

theorem ensures_sized (short : Fault) :
    (sized short).Ensures fun value => value.length < lengthBound :=
  fun _ _ _ read => ensures_length (decode_sized_eq_ok_iff.mp read)

theorem ensures_bytes : bytes.Ensures fun value => value.length < lengthBound :=
  ensures_sized _

/-! ## Sizes -/

/-- Lengths within the size limit can be written. -/
theorem lt_lengthBound {length : Nat} (short : length ≤ sizeLimit) : length < lengthBound :=
  Nat.lt_of_le_of_lt short (by decide)

/-- What is written is the byte form, if it is not over the size limit. -/
theorem write_eq_ok_iff {codec : Codec α} {value : α} {written : Bytes} :
    codec.write value = .ok written ↔ codec.encode value = written ∧ written.length ≤ sizeLimit := by
  unfold write
  dsimp only
  split
  · next short =>
    rw [Except.ok.injEq]
    exact ⟨fun same => ⟨same, same ▸ short⟩, fun h => h.1⟩
  · next long => exact ⟨nofun, fun ⟨same, short⟩ => absurd (same ▸ short) long⟩

theorem length_encode_length (n : Nat) : (length.encode n).length = 8 :=
  Bytes.length_littleEndian 8 n

theorem length_encode_sized (short : Fault) (value : Bytes) :
    ((sized short).encode value).length = 8 + value.length := by
  rw [← length_encode_length value.length]
  exact List.length_append

theorem length_encode_bytes (value : Bytes) : (bytes.encode value).length = 8 + value.length :=
  length_encode_sized _ value

theorem length_encode_list (codec : Codec α) (values : List α) :
    (codec.list.encode values).length = 8 + (values.flatMap codec.encode).length := by
  rw [← length_encode_length values.length]
  exact List.length_append

/-- The form of a list holds that of each of its values. -/
theorem length_encode_le_of_mem {codec : Codec α} {values : List α} {value : α}
    (mem : value ∈ values) : (codec.encode value).length ≤ (codec.list.encode values).length := by
  have listed : codec.encode value ∈ values.map codec.encode := List.mem_map_of_mem mem
  rw [length_encode_list, List.flatMap_def]
  exact Nat.le_trans (List.sublist_flatten_of_mem listed).length_le (Nat.le_add_left _ _)

/-- Where every value takes up some bytes, a list is no longer than its form. -/
theorem length_le_length_encode_list {codec : Codec α} (pos : ∀ value, 0 < (codec.encode value).length)
    (values : List α) : values.length ≤ (codec.list.encode values).length := by
  rw [length_encode_list]
  refine Nat.le_trans ?_ (Nat.le_add_left _ _)
  induction values with
  | nil => exact Nat.le_refl _
  | cons value values ih =>
    have one := pos value
    rw [List.flatMap_cons, List.length_append, List.length_cons]
    omega

end Codec

end ConfidentialToken.Wire
