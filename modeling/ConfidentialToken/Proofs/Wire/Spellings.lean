import ConfidentialToken.Proofs.Wire.Types

/-!
# The spellings of a map

Actions and the metadata of requests hold a map, and the reader of a map takes its entries in any order
and more than once. So these types have values with several forms: the bytes that are read as a value are
those that spell out some list of entries which make up its map. What is written spells them in the order
of keys, and reading and writing gives the bytes back only where they did so too and are within the size
limit.

Apart from the entries of the map there is one spelling: the rest of such a value is read from what is
written for it.
-/

namespace ConfidentialToken

/-- The entries of a list become those of its map in the same order only where their keys ascend. -/
theorem SortedMap.entries_ofList_eq_iff {κ ν : Type} [Ord κ] [Std.TransOrd κ] [Std.LawfulEqOrd κ]
    {entries : List (κ × ν)} :
    (ofList entries).entries = entries ↔ entries.Pairwise fun x y => compare x.1 y.1 = .lt := by
  constructor
  · intro same
    rw [← same]
    exact (ofList entries).sorted
  · intro sorted
    exact congrArg SortedMap.entries (ofList_entries ⟨entries, sorted⟩)

namespace Wire.Codec

variable {α β γ : Type}

/-- Entries of a map as they are spelled. -/
abbrev Entries := List (String × Bytes)

/-- The byte form of entries, in the order in which they are given. -/
def entries : Codec Entries := (text.pair bytes).list

theorem faithful_entries : entries.Faithful := (faithful_text.pair faithful_bytes).list

/-! ## Reading through another codec -/

/-- A codec reads what another reads, and makes its own value of it. -/
def ReadsAs (codec : Codec α) (spelled : Codec β) (make : β → α) : Prop :=
  ∀ ⦃bytes value rest⦄, codec.decode bytes = .ok (value, rest) ↔
    ∃ b, spelled.decode bytes = .ok (b, rest) ∧ make b = value

theorem readsAs_self (codec : Codec α) : codec.ReadsAs codec id := by
  intro bytes value rest
  simp only [id, exists_eq_right]

theorem readsAs_map : map.ReadsAs entries SortedMap.ofList := fun _ _ _ => decode_via_eq_ok_iff

theorem ReadsAs.pair {first : Codec α} {second : Codec β} {γ δ : Type} {spelledFirst : Codec γ}
    {spelledSecond : Codec δ} {f : γ → α} {g : δ → β} (ha : first.ReadsAs spelledFirst f)
    (hb : second.ReadsAs spelledSecond g) :
    (first.pair second).ReadsAs (spelledFirst.pair spelledSecond) (Prod.map f g) := by
  intro bytes value rest
  rw [decode_pair_eq_ok_iff]
  constructor
  · rintro ⟨between, hfirst, hsecond⟩
    obtain ⟨c, readC, made⟩ := ha.mp hfirst
    obtain ⟨d, readD, made'⟩ := hb.mp hsecond
    exact ⟨(c, d), decode_pair_eq_ok_iff.mpr ⟨between, readC, readD⟩, Prod.ext made made'⟩
  · rintro ⟨⟨c, d⟩, read, rfl⟩
    obtain ⟨between, readC, readD⟩ := decode_pair_eq_ok_iff.mp read
    exact ⟨between, ha.mpr ⟨c, readC, rfl⟩, hb.mpr ⟨d, readD, rfl⟩⟩

theorem ReadsAs.via {codec : Codec α} {spelled : Codec γ} {f : γ → α} {make : α → β}
    {unmake : β → α} (h : codec.ReadsAs spelled f) :
    (codec.via make unmake).ReadsAs spelled (make ∘ f) := by
  intro bytes value rest
  rw [decode_via_eq_ok_iff]
  constructor
  · rintro ⟨a, read, rfl⟩
    obtain ⟨c, readC, rfl⟩ := h.mp read
    exact ⟨c, readC, rfl⟩
  · rintro ⟨c, readC, rfl⟩
    exact ⟨f c, h.mpr ⟨c, readC, rfl⟩, rfl⟩

/-! ## Spellings -/

/-- How the values of a codec are spelled when the entries of their map are given as a list. -/
structure Spelling (codec : Codec α) (β : Type) where
  /-- The byte form with the entries of the map as they are given. -/
  spelled : Codec β
  /-- The value of a spelling. -/
  make : β → α
  /-- The map inside a value. -/
  map : α → SortedMap String Bytes
  /-- The spelling of a value with other entries in place of its map. -/
  spell : α → Entries → β
  faithful : spelled.Faithful
  reads : codec.ReadsAs spelled make
  writes : ∀ value, codec.encode value = spelled.encode (spell value (map value).entries)
  make_eq_iff : ∀ b value, make b = value ↔
    ∃ entries, SortedMap.ofList entries = map value ∧ spell value entries = b
  spell_inj : ∀ value entries others, spell value entries = spell value others → entries = others

namespace Spelling

variable {codec : Codec α} (s : Spelling codec β) {bytes : Bytes} {value : α}

/-- The bytes that spell a value with the given entries in place of its map. -/
def form (value : α) (entries : Entries) : Bytes := s.spelled.encode (s.spell value entries)

theorem decode_form {entries : Entries} (short : (s.form value entries).length < lengthBound) :
    s.spelled.decode (s.form value entries) = .ok (s.spell value entries, []) :=
  decode_of_read (s.faithful.roundTrips short).read_encode

/-- Bytes that spell a value are what is written for it just where the keys ascend in them. -/
theorem encode_eq_form_iff {entries : Entries} (short : (s.form value entries).length < lengthBound)
    (spells : SortedMap.ofList entries = s.map value) :
    codec.encode value = s.form value entries ↔
      entries.Pairwise fun x y => compare x.1 y.1 = .lt := by
  have written : codec.encode value = s.form value (s.map value).entries := s.writes value
  rw [← SortedMap.entries_ofList_eq_iff, spells, written]
  constructor
  · intro same
    have decoded := s.decode_form short
    rw [← same, s.decode_form (same ▸ short)] at decoded
    exact s.spell_inj value _ _ (Prod.mk.inj (Except.ok.inj decoded)).1
  · exact congrArg (s.form value)

/-- A spelling of a value is read as that value. -/
theorem read_spelled {entries : Entries} (short : (s.form value entries).length < lengthBound)
    (spells : SortedMap.ofList entries = s.map value) :
    codec.read (s.form value entries) = .ok value := by
  have made := (s.make_eq_iff _ value).mpr ⟨entries, spells, rfl⟩
  have decoded : codec.decode (s.form value entries) = .ok (value, []) :=
    s.reads.mpr ⟨_, s.decode_form short, made⟩
  unfold read ofBytes
  rw [decoded]
  rfl

/-- The bytes that are read as a value are those that spell it. They are its form just where the keys
ascend in them, and are written again if they are within the size limit, too. -/
theorem read_eq_ok_iff (short : bytes.length < lengthBound) :
    codec.read bytes = .ok value ↔ ∃ entries, SortedMap.ofList entries = s.map value ∧
      s.form value entries = bytes ∧
      (codec.encode value = bytes ↔ entries.Pairwise fun x y => compare x.1 y.1 = .lt) ∧
      (codec.write value = .ok bytes ↔
        entries.Pairwise (fun x y => compare x.1 y.1 = .lt) ∧ bytes.length ≤ sizeLimit) := by
  constructor
  · intro read
    obtain ⟨b, readB, made⟩ := s.reads.mp (decode_of_read read)
    obtain ⟨entries, spells, rfl⟩ := (s.make_eq_iff b value).mp made
    have form : bytes = s.form value entries := by
      rw [s.faithful.exact readB, List.append_nil]
      rfl
    subst form
    have ordered := s.encode_eq_form_iff short spells
    exact ⟨entries, spells, rfl, ordered, write_eq_ok_iff.trans (and_congr_left fun _ => ordered)⟩
  · rintro ⟨entries, spells, rfl, -⟩
    exact s.read_spelled short spells

end Spelling

end Wire.Codec

open Wire.Codec

/-! ## Actions and metadata -/

section

variable {P : Type} [PointGroup P] [PointGroup.LawfulEncoding P]

/-- The spellings of an issue. -/
def IssueAction.spelling : Spelling (IssueAction.codec (P := P))
    (Identity × List (Token P) × Bytes × Entries) where
  spelled := Identity.codec.pair (Token.codec.list.pair (bytes.pair entries))
  make := fun (i, o, p, e) => ⟨i, o, p, .ofList e⟩
  map := IssueAction.metadata
  spell action entries := (action.issuer, action.outputs, action.proof, entries)
  faithful := Identity.faithful.pair (Token.faithful.list.pair (faithful_bytes.pair faithful_entries))
  reads := ((readsAs_self _).pair ((readsAs_self _).pair ((readsAs_self _).pair readsAs_map))).via
  writes _ := rfl
  make_eq_iff b value := by
    constructor
    · rintro rfl
      exact ⟨_, rfl, rfl⟩
    · rintro ⟨_, spells, rfl⟩
      exact congrArg (IssueAction.mk _ _ _) spells
  spell_inj _ _ _ same := (Prod.mk.inj (Prod.mk.inj (Prod.mk.inj same).2).2).2

/-- The spellings of a transfer. -/
def TransferAction.spelling : Spelling (TransferAction.codec (P := P))
    (List (ActionInput P) × List (Token P) × Bytes × Entries × List Identity) where
  spelled := ActionInput.codec.list.pair (Token.codec.list.pair (bytes.pair
    (entries.pair Identity.codec.list)))
  make := fun (i, o, p, e, x) => ⟨i, o, p, .ofList e, x⟩
  map := TransferAction.metadata
  spell action entries :=
    (action.inputs, action.outputs, action.proof, entries, action.extraSigners)
  faithful := ActionInput.faithful.list.pair (Token.faithful.list.pair (faithful_bytes.pair
    (faithful_entries.pair Identity.faithful.list)))
  reads := ((readsAs_self _).pair ((readsAs_self _).pair ((readsAs_self _).pair
    (readsAs_map.pair (readsAs_self _))))).via
  writes _ := rfl
  make_eq_iff b value := by
    constructor
    · rintro rfl
      exact ⟨_, rfl, rfl⟩
    · rintro ⟨_, spells, rfl⟩
      exact congrArg (TransferAction.mk _ _ _ · _) spells
  spell_inj _ _ _ same := (Prod.mk.inj (Prod.mk.inj (Prod.mk.inj (Prod.mk.inj same).2).2).2).1

end

/-- The spellings of the metadata of a request. -/
def RequestMetadata.spelling : Spelling RequestMetadata.codec
    (List IssueMetadata × List TransferMetadata × Entries) where
  spelled := IssueMetadata.codec.list.pair (TransferMetadata.codec.list.pair entries)
  make := fun (i, t, e) => ⟨i, t, .ofList e⟩
  map := RequestMetadata.application
  spell metadata entries := (metadata.issues, metadata.transfers, entries)
  faithful := IssueMetadata.faithful.list.pair (TransferMetadata.faithful.list.pair faithful_entries)
  reads := ((readsAs_self _).pair ((readsAs_self _).pair readsAs_map)).via
  writes _ := rfl
  make_eq_iff b value := by
    constructor
    · rintro rfl
      exact ⟨_, rfl, rfl⟩
    · rintro ⟨_, spells, rfl⟩
      exact congrArg (RequestMetadata.mk _ _) spells
  spell_inj _ _ _ same := (Prod.mk.inj (Prod.mk.inj same).2).2

/-- Actions and metadata are read from all spellings of their map, and from nothing else. The bytes that
they were read from are their form just where the keys of the entries ascend there, so that no key comes
twice; they are written again under the same condition, if they are within the size limit. -/
theorem Wire.read_iff_spelled {P : Type} [PointGroup P] [PointGroup.LawfulEncoding P] {bytes : Bytes}
    (short : bytes.length < lengthBound) :
    (∀ action : IssueAction P, IssueAction.ofBytes bytes = .ok action ↔
      ∃ entries, SortedMap.ofList entries = action.metadata ∧
        IssueAction.spelling.form action entries = bytes ∧
        (action.toBytes = bytes ↔ entries.Pairwise fun x y => compare x.1 y.1 = .lt) ∧
        (action.serialize = .ok bytes ↔
          entries.Pairwise (fun x y => compare x.1 y.1 = .lt) ∧ bytes.length ≤ sizeLimit)) ∧
    (∀ action : TransferAction P, TransferAction.ofBytes bytes = .ok action ↔
      ∃ entries, SortedMap.ofList entries = action.metadata ∧
        TransferAction.spelling.form action entries = bytes ∧
        (action.toBytes = bytes ↔ entries.Pairwise fun x y => compare x.1 y.1 = .lt) ∧
        (action.serialize = .ok bytes ↔
          entries.Pairwise (fun x y => compare x.1 y.1 = .lt) ∧ bytes.length ≤ sizeLimit)) ∧
    ∀ metadata : RequestMetadata, RequestMetadata.ofBytes bytes = .ok metadata ↔
      ∃ entries, SortedMap.ofList entries = metadata.application ∧
        RequestMetadata.spelling.form metadata entries = bytes ∧
        (metadata.toBytes = bytes ↔ entries.Pairwise fun x y => compare x.1 y.1 = .lt) ∧
        (metadata.serialize = .ok bytes ↔
          entries.Pairwise (fun x y => compare x.1 y.1 = .lt) ∧ bytes.length ≤ sizeLimit) :=
  ⟨fun _ => Outcome.inContext_eq_ok_iff.trans (IssueAction.spelling.read_eq_ok_iff short),
    fun _ => Outcome.inContext_eq_ok_iff.trans (TransferAction.spelling.read_eq_ok_iff short),
    fun _ => Outcome.inContext_eq_ok_iff.trans (RequestMetadata.spelling.read_eq_ok_iff short)⟩

/-- Two entries that are not in the order of their keys. -/
def Plain.swapped : Entries := [("b", [2]), ("a", [1])]

/-- Metadata is read from two entries in the wrong order, and written in the right one. -/
theorem Wire.read_swapped :
    let metadata : RequestMetadata := ⟨[], [], .ofList Plain.swapped⟩
    let bytes := RequestMetadata.spelling.form metadata Plain.swapped
    bytes.length < lengthBound ∧ RequestMetadata.ofBytes bytes = .ok metadata ∧
      metadata.toBytes ≠ bytes ∧ metadata.serialize ≠ .ok bytes := by
  intro metadata bytes
  have short : bytes.length < lengthBound := by decide
  have differ : metadata.toBytes ≠ bytes := by decide
  have unordered : ¬Plain.swapped.Pairwise fun x y => compare x.1 y.1 = .lt := by decide
  have unwritten : metadata.serialize ≠ .ok bytes := fun same => differ (write_eq_ok_iff.mp same).1
  refine ⟨short, ?_, differ, unwritten⟩
  exact ((read_iff_spelled (P := Plain) short).2.2 metadata).mpr
    ⟨Plain.swapped, rfl, rfl, iff_of_false differ unordered,
      iff_of_false unwritten fun h => unordered h.1⟩

/-- Of an issue, a transfer and metadata there are bytes that are read, and other bytes that are written
for what was read. -/
theorem Wire.exists_read_and_written_differently :
    (∃ (bytes written : Bytes) (action : IssueAction Plain),
      IssueAction.ofBytes bytes = .ok action ∧ action.serialize = .ok written ∧ written ≠ bytes) ∧
    (∃ (bytes written : Bytes) (action : TransferAction Plain),
      TransferAction.ofBytes bytes = .ok action ∧ action.serialize = .ok written ∧ written ≠ bytes) ∧
    ∃ (bytes written : Bytes) (metadata : RequestMetadata),
      RequestMetadata.ofBytes bytes = .ok metadata ∧ metadata.serialize = .ok written ∧
        written ≠ bytes := by
  let issue : IssueAction Plain := ⟨⟨[1]⟩, [], [], .ofList Plain.swapped⟩
  let transfer : TransferAction Plain := ⟨[], [], [], .ofList Plain.swapped, []⟩
  let metadata : RequestMetadata := ⟨[], [], .ofList Plain.swapped⟩
  have writes {α : Type} (codec : Wire.Codec α) (value : α)
      (short : (codec.encode value).length ≤ sizeLimit) :
      codec.write value = .ok (codec.encode value) :=
    write_eq_ok_iff.mpr ⟨rfl, short⟩
  refine ⟨⟨IssueAction.spelling.form issue Plain.swapped, issue.toBytes, issue, ?_,
      writes _ _ (by decide), by decide⟩,
    ⟨TransferAction.spelling.form transfer Plain.swapped, transfer.toBytes, transfer, ?_,
      writes _ _ (by decide), by decide⟩,
    ⟨RequestMetadata.spelling.form metadata Plain.swapped, metadata.toBytes, metadata, ?_,
      writes _ _ (by decide), by decide⟩⟩
  · exact Outcome.inContext_eq_ok_iff.mpr (IssueAction.spelling.read_spelled (by decide) rfl)
  · exact Outcome.inContext_eq_ok_iff.mpr (TransferAction.spelling.read_spelled (by decide) rfl)
  · exact Outcome.inContext_eq_ok_iff.mpr (RequestMetadata.spelling.read_spelled (by decide) rfl)

end ConfidentialToken
