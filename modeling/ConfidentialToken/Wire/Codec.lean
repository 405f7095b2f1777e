import ConfidentialToken.PointGroup
import ConfidentialToken.RangeProof
import ConfidentialToken.SortedMap
import ConfidentialToken.Text.Utf8

/-!
# The wire format

Every value that is hashed, signed or sent has a byte form: numbers of fixed width with the lowest
byte first, sequences after their length, choices after the index of the alternative. A `Codec` pairs
the writer with a reader that gives back the value and the bytes it left, or the first fault. Codecs
are built shape by shape, so what is shown of the shapes holds of every type of the wire.
-/

namespace ConfidentialToken.Wire

/-- Why bytes are not the byte form of a value. -/
inductive Fault where
  /-- The bytes end inside a number, a tag, a block or a sequence of bytes. -/
  | endOfInput
  /-- A text or a proof is longer than what is left. -/
  | shortOfText
  /-- Bytes are left after the value. -/
  | trailingBytes
  /-- The tag of an optional value is neither 0 nor 1. -/
  | optionTag (tag : UInt8)
  /-- No alternative has the index. -/
  | alternative (index count : Nat)
  | text (fault : Text.Utf8.Fault)
  | commitment
  | generator
  | scalar
  | rangeProof (fault : RangeProof.Fault)
  /-- A byte form is longer than `sizeLimit`. -/
  | sizeLimit
deriving DecidableEq, Repr

/-- The most bytes that are written where the length of a byte form is checked: 64 MiB. -/
def sizeLimit : Nat := 67108864

/-- The sentence that tells a fault. -/
def Fault.message : Fault → String
  | endOfInput => "io error: unexpected end of file"
  | shortOfText => "io error: "
  | trailingBytes => "Slice had bytes remaining after deserialization"
  | optionTag tag => "tag for enum is not valid, found " ++ toString tag.toNat
  | alternative index count =>
    "invalid value: integer `" ++ toString index ++ "`, expected variant index 0 <= i < " ++
      toString count
  | text fault => "string is not valid utf8: " ++ fault.message
  | commitment => "non-canonical `Commitment`"
  | generator => "decompression failed"
  | scalar => "scalar was not canonically encoded"
  | rangeProof fault => fault.message
  | sizeLimit => "the size limit has been reached"

/-- Reads a value off the front of a byte string. -/
abbrev Reader (α : Type) := Bytes → Except Fault (α × Bytes)

/-- A writer and a reader of one type. -/
structure Codec (α : Type) where
  encode : α → Bytes
  decode : Reader α

namespace Codec

variable {α β : Type}

/-- Reads a value that takes up all bytes. -/
def ofBytes (codec : Codec α) (bytes : Bytes) : Except Fault α :=
  match codec.decode bytes with
  | .ok (value, []) => .ok value
  | .ok (_, _ :: _) => .error .trailingBytes
  | .error fault => .error fault

/-! ## Shapes -/

/-- Two values, one after the other. -/
def pair (first : Codec α) (second : Codec β) : Codec (α × β) where
  encode value := first.encode value.1 ++ second.encode value.2
  decode bytes :=
    match first.decode bytes with
    | .error fault => .error fault
    | .ok (a, rest) =>
      match second.decode rest with
      | .error fault => .error fault
      | .ok (b, rest) => .ok ((a, b), rest)

/-- A type whose values are made of those of another. -/
def via (codec : Codec α) (make : α → β) (unmake : β → α) : Codec β where
  encode value := codec.encode (unmake value)
  decode bytes :=
    match codec.decode bytes with
    | .error fault => .error fault
    | .ok (a, rest) => .ok (make a, rest)

/-- A type made of some values of another; the others are a fault. -/
def refine (codec : Codec α) (make : α → Except Fault β) (unmake : β → α) : Codec β where
  encode value := codec.encode (unmake value)
  decode bytes :=
    match codec.decode bytes with
    | .error fault => .error fault
    | .ok (a, rest) =>
      match make a with
      | .error fault => .error fault
      | .ok b => .ok (b, rest)

/-- Reads `count` values, keeping those read so far in reverse. -/
def decodeOnto (read : Reader α) : (count : Nat) → List α → Reader (List α)
  | 0, values, bytes => .ok (values.reverse, bytes)
  | count + 1, values, bytes =>
    match read bytes with
    | .error fault => .error fault
    | .ok (value, rest) => decodeOnto read count (value :: values) rest

/-- A block of `n` bytes. -/
def block (n : Nat) : Codec (Block n) where
  encode := Block.bytes
  decode bytes :=
    let (taken, rest) := bytes.splitAt n
    match Block.ofBytes? n taken with
    | some b => .ok (b, rest)
    | none => .error .endOfInput

/-- A number of 64 bits. -/
def u64 : Codec UInt64 :=
  (block 8).via (fun b => UInt64.ofNat b.toNat) (fun n => .ofNat 8 n.toNat)

/-- A length, over 64 bits. -/
def length : Codec Nat :=
  (block 8).via Block.toNat (.ofNat 8)

/-- Any number of values after their count. -/
def list (codec : Codec α) : Codec (List α) where
  encode values := length.encode values.length ++ values.flatMap codec.encode
  decode bytes :=
    match length.decode bytes with
    | .error fault => .error fault
    | .ok (count, rest) => decodeOnto codec.decode count [] rest

/-- Bytes after their count; `short` is the fault when fewer are left. -/
def sized (short : Fault) : Codec Bytes where
  encode value := length.encode value.length ++ value
  decode bytes :=
    match length.decode bytes with
    | .error fault => .error fault
    | .ok (count, rest) =>
      let (taken, rest) := rest.splitAt count
      if taken.length = count then .ok (taken, rest) else .error short

/-- A byte string. -/
def bytes : Codec Bytes := sized .endOfInput

/-- The text with the given bytes, or the place where they stop being one. -/
def readText (value : Bytes) : Except Fault String :=
  match Bytes.toText? value with
  | some text => .ok text
  | none => .error (.text ((Text.Utf8.fault? value).getD (.incomplete 0)))

/-- A text, as its UTF-8 bytes. -/
def text : Codec String := (sized .shortOfText).refine readText Bytes.ofText

/-- A value that may be missing, after a tag that says so. -/
def option (codec : Codec α) : Codec (Option α) where
  encode
    | none => [0]
    | some value => 1 :: codec.encode value
  decode
    | [] => .error .endOfInput
    | tag :: rest =>
      if tag = 0 then .ok (none, rest)
      else if tag = 1 then
        match codec.decode rest with
        | .error fault => .error fault
        | .ok (value, rest) => .ok (some value, rest)
      else .error (.optionTag tag)

/-- One of a list of constants, as its index over 32 bits. -/
def choice [DecidableEq α] (all : List α) : Codec α :=
  (block 4).refine
    (fun b =>
      match all[b.toNat]? with
      | some value => .ok value
      | none => .error (.alternative b.toNat all.length))
    (fun value => .ofNat 4 (all.idxOf value))

/-- A map, as its entries in order of keys. The reader takes entries in any order; of two with one
key the later holds. -/
def map : Codec (SortedMap String Bytes) :=
  ((text.pair bytes).list).via SortedMap.ofList SortedMap.entries

/-! ## Group elements -/

/-- A scalar. -/
def scalar : Codec Scalar :=
  (block 32).refine
    (fun b => match Scalar.ofBlock? b with
      | some s => .ok s
      | none => .error .scalar)
    Scalar.toBlock

/-- A point; `fault` when its bytes write none. -/
def point (P : Type) [PointGroup P] (fault : Fault) : Codec P :=
  (block 32).refine
    (fun b => match PointGroup.decode b with
      | some p => .ok p
      | none => .error fault)
    PointGroup.encode

/-- A range proof, as a sized byte string. -/
def rangeProof : Codec RangeProof :=
  (sized .shortOfText).refine
    (fun b => match RangeProof.ofBytes? b with
      | some proof => .ok proof
      | none => .error (.rangeProof .unreadable))
    RangeProof.toBytes

end Codec

end ConfidentialToken.Wire
