import ConfidentialToken.Proofs.Wire.Objects
import ConfidentialToken.Proofs.Wire.Proofs
import ConfidentialToken.Proofs.Wire.Reading

/-!
# Codecs that lose nothing

A value that is written and read is the same value, a part of what is written is not read at all, and
neither is anything with more bytes behind it. Three laws give this, and every shape keeps them: what is
written reads back, a reader finds the end of a value by itself, and every value takes up some bytes.

The bound on lengths is one on the whole form, from which that on every length inside follows.
-/

namespace ConfidentialToken.Wire.Codec

variable {α β : Type}

/-- Bytes that follow a value change nothing about how it is read. -/
def Delimits (codec : Codec α) : Prop :=
  ∀ ⦃bytes value rest⦄, codec.decode bytes = .ok (value, rest) →
    ∀ more, codec.decode (bytes ++ more) = .ok (value, rest ++ more)

/-- The laws that make writing and reading lose nothing. -/
structure Lossless (codec : Codec α) : Prop where
  roundTrips : ∀ ⦃value⦄, (codec.encode value).length < lengthBound → codec.RoundTrips value
  delimits : codec.Delimits
  pos : ∀ value, 0 < (codec.encode value).length

/-! ## Consequences -/

section

variable {codec : Codec α} {value : α}

/-- A proper part of the form of a value is read as nothing. -/
theorem decode_part_eq_error (trips : codec.RoundTrips value) (delimits : codec.Delimits)
    {part : Bytes} (begins : part <+: codec.encode value) (proper : part ≠ codec.encode value) :
    ∃ fault, codec.decode part = .error fault := by
  obtain ⟨missing, whole⟩ := begins
  cases decoded : codec.decode part with
  | error fault => exact ⟨fault, rfl⟩
  | ok result =>
    -- reading the whole form would leave the missing bytes, but it leaves none
    obtain ⟨other, rest⟩ := result
    have extended := delimits decoded missing
    have trip := trips []
    rw [List.append_nil, ← whole, extended] at trip
    have nothing := List.append_eq_nil_iff.mp (Prod.mk.inj (Except.ok.inj trip)).2
    rw [nothing.2, List.append_nil] at whole
    exact absurd whole proper

/-- So reading the part of the form alone fails. -/
theorem read_part_eq_error (trips : codec.RoundTrips value) (delimits : codec.Delimits)
    {part : Bytes} (begins : part <+: codec.encode value) (proper : part ≠ codec.encode value) :
    ∃ fault, codec.read part = .error (.ofWire fault) := by
  obtain ⟨fault, faulty⟩ := decode_part_eq_error trips delimits begins proper
  refine ⟨fault, ?_⟩
  unfold read ofBytes
  rw [faulty]
  rfl

/-- Bytes behind the form of a value are a fault. -/
theorem read_append_eq_error (trips : codec.RoundTrips value) {more : Bytes} (nonempty : more ≠ []) :
    codec.read (codec.encode value ++ more) = .error (.ofWire .trailingBytes) := by
  obtain ⟨byte, bytes, rfl⟩ := List.exists_cons_of_ne_nil nonempty
  unfold read ofBytes
  rw [trips]
  rfl

end

/-! ## The end of a value -/

theorem Delimits.pair {first : Codec α} {second : Codec β} (ha : first.Delimits)
    (hb : second.Delimits) : (first.pair second).Delimits := by
  intro bytes value rest decoded more
  obtain ⟨between, hfirst, hsecond⟩ := decode_pair_eq_ok_iff.mp decoded
  exact decode_pair_eq_ok_iff.mpr ⟨between ++ more, ha hfirst more, hb hsecond more⟩

theorem Delimits.via {codec : Codec α} {make : α → β} {unmake : β → α} (h : codec.Delimits) :
    (codec.via make unmake).Delimits := by
  intro bytes value rest decoded more
  obtain ⟨a, read, made⟩ := decode_via_eq_ok_iff.mp decoded
  exact decode_via_eq_ok_iff.mpr ⟨a, h read more, made⟩

theorem Delimits.refine {codec : Codec α} {make : α → Except Fault β} {unmake : β → α}
    (h : codec.Delimits) : (codec.refine make unmake).Delimits := by
  intro bytes value rest decoded more
  obtain ⟨a, read, made⟩ := decode_refine_eq_ok_iff.mp decoded
  exact decode_refine_eq_ok_iff.mpr ⟨a, h read more, made⟩

theorem Delimits.option {codec : Codec α} (h : codec.Delimits) : codec.option.Delimits := by
  intro bytes value rest decoded more
  obtain ⟨rfl, rfl⟩ | ⟨a, after, rfl, rfl, read⟩ := decode_option_eq_ok_iff.mp decoded
  · rfl
  · exact decode_option_eq_ok_iff.mpr (.inr ⟨a, after ++ more, rfl, rfl, h read more⟩)

theorem Delimits.readsAll_append {codec : Codec α} (h : codec.Delimits) {values : List α}
    {bytes rest : Bytes} (all : codec.ReadsAll values bytes rest) (more : Bytes) :
    codec.ReadsAll values (bytes ++ more) (rest ++ more) := by
  induction all with
  | nil => exact .nil
  | cons first _ ih => exact .cons (h first more) ih

theorem delimits_block (n : Nat) : (block n).Delimits := by
  intro bytes value rest decoded more
  rw [decode_block_eq_ok_iff] at decoded ⊢
  rw [decoded, List.append_assoc]

theorem delimits_length : length.Delimits := .via (delimits_block 8)

theorem Delimits.list {codec : Codec α} (h : codec.Delimits) : codec.list.Delimits := by
  intro bytes values rest decoded more
  obtain ⟨after, count, all⟩ := decode_list_eq_ok_iff.mp decoded
  exact decode_list_eq_ok_iff.mpr
    ⟨after ++ more, delimits_length count more, h.readsAll_append all more⟩

theorem delimits_sized (short : Fault) : (sized short).Delimits := by
  intro bytes value rest decoded more
  rw [decode_sized_eq_ok_iff] at decoded ⊢
  rw [delimits_length decoded more, List.append_assoc]

/-! ## Shapes -/

theorem Lossless.pair {first : Codec α} {second : Codec β} (ha : first.Lossless)
    (hb : second.Lossless) : (first.pair second).Lossless where
  roundTrips value fits := by
    have length : (first.encode value.1 ++ second.encode value.2).length < lengthBound := fits
    rw [List.length_append] at length
    exact .pair (ha.roundTrips (Nat.lt_of_le_of_lt (Nat.le_add_right _ _) length))
      (hb.roundTrips (Nat.lt_of_le_of_lt (Nat.le_add_left _ _) length))
  delimits := ha.delimits.pair hb.delimits
  pos value := by
    show 0 < (first.encode value.1 ++ second.encode value.2).length
    rw [List.length_append]
    exact Nat.add_pos_left (ha.pos _) _

theorem Lossless.via {codec : Codec α} {make : α → β} {unmake : β → α} (h : codec.Lossless)
    (inverse : ∀ value, make (unmake value) = value) : (codec.via make unmake).Lossless where
  roundTrips value fits := .via (inverse value) (h.roundTrips fits)
  delimits := h.delimits.via
  pos value := h.pos (unmake value)

theorem Lossless.refine {codec : Codec α} {make : α → Except Fault β} {unmake : β → α}
    (h : codec.Lossless) (inverse : ∀ value, make (unmake value) = .ok value) :
    (codec.refine make unmake).Lossless where
  roundTrips value fits := .refine (inverse value) (h.roundTrips fits)
  delimits := h.delimits.refine
  pos value := h.pos (unmake value)

theorem Lossless.option {codec : Codec α} (h : codec.Lossless) : codec.option.Lossless where
  roundTrips value fits := .option fun a given => by
    subst given
    exact h.roundTrips (Nat.lt_of_succ_lt fits)
  delimits := h.delimits.option
  pos value := by cases value <;> exact Nat.succ_pos _

theorem Lossless.list {codec : Codec α} (h : codec.Lossless) : codec.list.Lossless where
  roundTrips values fits :=
    .list (Nat.lt_of_le_of_lt (length_le_length_encode_list h.pos values) fits) fun _ mem =>
      h.roundTrips (Nat.lt_of_le_of_lt (length_encode_le_of_mem mem) fits)
  delimits := h.delimits.list
  pos values := by
    rw [length_encode_list]
    exact Nat.add_pos_left (by decide) _

/-! ## Leaves -/

theorem lossless_block {n : Nat} (pos : 0 < n) : (block n).Lossless where
  roundTrips value _ := roundTrips_block n value
  delimits := delimits_block n
  pos value := by
    show 0 < value.bytes.length
    rw [show value.bytes.length = n from value.property]
    exact pos

theorem lossless_u64 : u64.Lossless where
  roundTrips value _ := roundTrips_u64 value
  delimits := .via (delimits_block 8)
  pos _ := (lossless_block (n := 8) (by decide)).pos _

theorem lossless_sized (short : Fault) : (sized short).Lossless where
  roundTrips value fits := by
    rw [length_encode_sized] at fits
    exact roundTrips_sized (Nat.lt_of_le_of_lt (Nat.le_add_left _ _) fits)
  delimits := delimits_sized short
  pos value := by
    rw [length_encode_sized]
    exact Nat.add_pos_left (by decide) _

theorem lossless_bytes : bytes.Lossless := lossless_sized _

theorem lossless_text : text.Lossless :=
  (lossless_sized _).refine fun value => by simp only [readText, Bytes.toText?_ofText]

theorem lossless_choice [DecidableEq α] {all : List α} (listed : ∀ value, value ∈ all)
    (small : all.length ≤ Nat.pow 256 4) : (choice all).Lossless where
  roundTrips value _ := roundTrips_choice (listed value) small
  delimits := (delimits_block 4).refine
  pos _ := (lossless_block (n := 4) (by decide)).pos _

theorem lossless_map : map.Lossless :=
  (lossless_text.pair lossless_bytes).list.via SortedMap.ofList_entries

theorem lossless_scalar : scalar.Lossless where
  roundTrips value _ := roundTrips_scalar value
  delimits := (delimits_block 32).refine
  pos _ := (lossless_block (n := 32) (by decide)).pos _

theorem lossless_point {P : Type} [PointGroup P] [PointGroup.LawfulEncoding P] (fault : Fault) :
    (point P fault).Lossless where
  roundTrips value _ := roundTrips_point fault value
  delimits := (delimits_block 32).refine
  pos _ := (lossless_block (n := 32) (by decide)).pos _

theorem lossless_rangeProof : rangeProof.Lossless where
  roundTrips value _ := roundTrips_rangeProof value
  delimits := (delimits_sized _).refine
  pos value := (length_encode_rangeProof_bounds value).1

end ConfidentialToken.Wire.Codec
