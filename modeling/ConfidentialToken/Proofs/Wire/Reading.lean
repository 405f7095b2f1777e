import ConfidentialToken.Identity.Enrollment

/-!
# What a reader gives

A shape reads a value exactly when its parts read the parts of the value, one after the other; a list
is read when its entries are, which `ReadsAll` says without the accumulator of the reader. Laws of codecs
are shown from these equivalences, so none of them opens the readers again.
-/

namespace ConfidentialToken.Wire.Codec

variable {α β : Type} {bytes rest : Bytes}

theorem decode_pair_eq_ok_iff {first : Codec α} {second : Codec β} {value : α × β} :
    (first.pair second).decode bytes = .ok (value, rest) ↔ ∃ between,
      first.decode bytes = .ok (value.1, between) ∧ second.decode between = .ok (value.2, rest) := by
  obtain ⟨a, b⟩ := value
  simp only [pair]
  split
  · next faulty => simp [faulty]
  · next a' between read =>
    split
    · next faulty =>
      simp only [read, reduceCtorEq, Except.ok.injEq, Prod.mk.injEq, false_iff, not_exists, not_and]
      rintro _ ⟨-, rfl⟩
      simp [faulty]
    · next read' =>
      simp only [read, Except.ok.injEq, Prod.mk.injEq]
      constructor
      · rintro ⟨⟨rfl, rfl⟩, rfl⟩
        exact ⟨between, ⟨rfl, rfl⟩, read'⟩
      · rintro ⟨_, ⟨rfl, rfl⟩, same⟩
        rw [read'] at same
        cases same
        exact ⟨⟨rfl, rfl⟩, rfl⟩

theorem decode_via_eq_ok_iff {codec : Codec α} {make : α → β} {unmake : β → α} {value : β} :
    (codec.via make unmake).decode bytes = .ok (value, rest) ↔
      ∃ a, codec.decode bytes = .ok (a, rest) ∧ make a = value := by
  simp only [via]
  split
  · next faulty => simp [faulty]
  · next a after read =>
    simp only [read, Except.ok.injEq, Prod.mk.injEq]
    constructor
    · rintro ⟨rfl, rfl⟩
      exact ⟨a, ⟨rfl, rfl⟩, rfl⟩
    · rintro ⟨_, ⟨rfl, rfl⟩, rfl⟩
      exact ⟨rfl, rfl⟩

theorem decode_refine_eq_ok_iff {codec : Codec α} {make : α → Except Fault β} {unmake : β → α}
    {value : β} :
    (codec.refine make unmake).decode bytes = .ok (value, rest) ↔
      ∃ a, codec.decode bytes = .ok (a, rest) ∧ make a = .ok value := by
  simp only [refine]
  split
  · next faulty => simp [faulty]
  · next a after read =>
    simp only [read, Except.ok.injEq, Prod.mk.injEq]
    split
    · next faulty =>
      simp only [reduceCtorEq, false_iff, not_exists, not_and]
      rintro _ ⟨rfl, rfl⟩
      simp [faulty]
    · next b made =>
      simp only [Except.ok.injEq, Prod.mk.injEq]
      constructor
      · rintro ⟨rfl, rfl⟩
        exact ⟨a, ⟨rfl, rfl⟩, made⟩
      · rintro ⟨_, ⟨rfl, rfl⟩, same⟩
        rw [made] at same
        exact ⟨Except.ok.inj same, rfl⟩

theorem decode_option_eq_ok_iff {codec : Codec α} {value : Option α} :
    codec.option.decode bytes = .ok (value, rest) ↔
      (value = none ∧ bytes = 0 :: rest) ∨
        ∃ a after, value = some a ∧ bytes = 1 :: after ∧ codec.decode after = .ok (a, rest) := by
  cases bytes with
  | nil => simp [option]
  | cons tag after =>
    simp only [option]
    split
    · next absent =>
      subst absent
      simp [eq_comm]
    · next given =>
      split
      · next present =>
        subst present
        split
        · next faulty => simp [faulty]
        · next a after' read =>
          simp only [Except.ok.injEq, Prod.mk.injEq, List.cons.injEq, true_and, given, false_and,
            and_false, false_or]
          constructor
          · rintro ⟨rfl, rfl⟩
            exact ⟨a, after, rfl, rfl, read⟩
          · rintro ⟨_, _, rfl, rfl, read'⟩
            rw [read] at read'
            cases read'
            exact ⟨rfl, rfl⟩
      · next other => simp [given, other]

/-- Values are read one after the other from bytes, and some bytes are left. -/
inductive ReadsAll (codec : Codec α) : List α → Bytes → Bytes → Prop
  | nil {rest : Bytes} : codec.ReadsAll [] rest rest
  | cons {value : α} {values : List α} {bytes after rest : Bytes} :
    codec.decode bytes = .ok (value, after) → codec.ReadsAll values after rest →
    codec.ReadsAll (value :: values) bytes rest

/-- Reading onto values that were read before puts others behind them. -/
theorem decodeOnto_eq_ok_iff {codec : Codec α} {count : Nat} {read values : List α} :
    decodeOnto codec.decode count read bytes = .ok (values, rest) ↔ ∃ others,
      read.reverse ++ others = values ∧ others.length = count ∧ codec.ReadsAll others bytes rest := by
  -- the values read before are in an accumulator, and every step moves one there
  induction count generalizing read bytes with
  | zero =>
    simp only [decodeOnto, Except.ok.injEq, Prod.mk.injEq, List.length_eq_zero_iff]
    constructor
    · rintro ⟨rfl, rfl⟩
      exact ⟨[], List.append_nil _, rfl, .nil⟩
    · rintro ⟨_, rfl, rfl, ⟨⟩⟩
      exact ⟨(List.append_nil _).symm, rfl⟩
  | succ count ih =>
    simp only [decodeOnto]
    split
    · next faulty =>
      refine ⟨nofun, ?_⟩
      rintro ⟨_, -, counted, _ | ⟨first, -⟩⟩
      · cases counted
      · rw [faulty] at first
        cases first
    · next value after first =>
      simp only [ih, List.reverse_cons, List.append_assoc, List.singleton_append]
      constructor
      · rintro ⟨others, rfl, rfl, all⟩
        exact ⟨value :: others, rfl, rfl, .cons first all⟩
      · rintro ⟨_, rfl, counted, _ | ⟨first', all⟩⟩
        · cases counted
        · rw [first] at first'
          cases first'
          exact ⟨_, rfl, Nat.succ.inj counted, all⟩

theorem decode_list_eq_ok_iff {codec : Codec α} {values : List α} :
    codec.list.decode bytes = .ok (values, rest) ↔ ∃ after,
      length.decode bytes = .ok (values.length, after) ∧ codec.ReadsAll values after rest := by
  simp only [list]
  split
  · next faulty => simp [faulty]
  · next count after read =>
    simp only [read, decodeOnto_eq_ok_iff, List.reverse_nil, List.nil_append, exists_eq_left,
      Except.ok.injEq, Prod.mk.injEq]
    constructor
    · exact fun ⟨counted, all⟩ => ⟨after, ⟨counted.symm, rfl⟩, all⟩
    · rintro ⟨_, ⟨rfl, rfl⟩, all⟩
      exact ⟨rfl, all⟩

theorem decode_block_eq_ok_iff {n : Nat} {value : Block n} :
    (block n).decode bytes = .ok (value, rest) ↔ bytes = value.bytes ++ rest := by
  obtain ⟨taken, length⟩ := value
  simp only [block, List.splitAt_eq, Block.bytes]
  constructor
  · intro read
    split at read
    · next hblock =>
      unfold Block.ofBytes? at hblock
      split at hblock
      · cases hblock
        cases read
        exact (List.take_append_drop n bytes).symm
      · cases hblock
    · cases read
  · rintro rfl
    subst length
    simp [Block.ofBytes?]

theorem decode_sized_eq_ok_iff {short : Fault} {value : Bytes} :
    (sized short).decode bytes = .ok (value, rest) ↔
      length.decode bytes = .ok (value.length, value ++ rest) := by
  simp only [sized]
  split
  · next faulty => simp [faulty]
  · next count after read =>
    simp only [read, List.splitAt_eq, Except.ok.injEq, Prod.mk.injEq]
    constructor
    · intro taken
      split at taken
      · next enough =>
        cases taken
        exact ⟨enough.symm, (List.take_append_drop count after).symm⟩
      · cases taken
    · rintro ⟨rfl, rfl⟩
      simp

end ConfidentialToken.Wire.Codec
