import ConfidentialToken.Hash.Keccak
import ConfidentialToken.PointGroup

/-!
# Transcripts

A transcript turns an interactive proof into one that anybody can check: what the prover would have
sent is absorbed, labelled, into a duplex over the Keccak permutation, and the verifier's challenges
are drawn from the duplex. What is absorbed is data (`Entry`), so the binding of a challenge to a
statement can be argued on the list of entries alone, apart from the duplex.
-/

namespace ConfidentialToken

/-! ## The duplex -/

/-- A duplex of 128-bit security: 200 bytes of state, the place of the next byte, and the place at
which the operation under way began. -/
structure Duplex where
  state : Bytes
  place : Nat
  began : Nat

namespace Duplex

/-- Bytes taken in or given out between two permutations. -/
def rate : Nat := 166

/-- What an operation does, as the flags that are mixed in when it begins. -/
inductive Operation where
  /-- Takes in framing. -/
  | frame
  /-- Takes in data. -/
  | data
  /-- Gives out bytes. -/
  | draw

/-- The flags of an operation: 1 inbound, 2 application, 4 cipher, 16 meta. -/
def Operation.flags : Operation → UInt8
  | .frame => 18
  | .data => 2
  | .draw => 7

/-- Whether the permutation runs before the operation's first byte. -/
def Operation.permutesFirst : Operation → Bool
  | .frame | .data => false
  | .draw => true

/-- Closes the block and runs the permutation. -/
def permute (d : Duplex) : Duplex :=
  let marked := (d.state.modify d.place (· ^^^ UInt8.ofNat d.began)).modify (d.place + 1) (· ^^^ 0x04)
  ⟨Hash.Keccak.permuteBytes (marked.modify (rate + 1) (· ^^^ 0x80)), 0, 0⟩

/-- Moves to the next place; at the end of the block the permutation runs at once. -/
def advance (d : Duplex) (state : Bytes) : Duplex :=
  let next : Duplex := ⟨state, d.place + 1, d.began⟩
  if next.place = rate then next.permute else next

/-- Takes in bytes. -/
def absorb (d : Duplex) (input : Bytes) : Duplex :=
  input.foldl (fun d b => d.advance (d.state.modify d.place (· ^^^ b))) d

/-- Gives out bytes, and leaves zeros in their place. -/
def squeeze : (size : Nat) → Duplex → Bytes × Duplex
  | 0, d => ([], d)
  | size + 1, d =>
    let (more, rest) := squeeze size (d.advance (d.state.set d.place 0))
    (d.state.getD d.place 0 :: more, rest)

/-- Begins an operation: the place where the one before began and the flags are taken in. -/
def start (d : Duplex) (operation : Operation) : Duplex :=
  let begun := { d with began := d.place + 1 }.absorb [UInt8.ofNat d.began, operation.flags]
  if operation.permutesFirst ∧ begun.place ≠ 0 then begun.permute else begun

/-- The duplex of a protocol. -/
def ofProtocol (name : String) : Duplex :=
  let header : Bytes := [1, UInt8.ofNat (rate + 2), 1, 0, 1, 96] ++ Bytes.ofText "STROBEv1.0.2"
  let state := header ++ List.replicate (Hash.Keccak.stateSize - header.length) 0
  ((⟨Hash.Keccak.permuteBytes state, 0, 0⟩ : Duplex).start .frame).absorb (Bytes.ofText name)

end Duplex

/-! ## Transcripts -/

/-- A labelled message, as it is absorbed. -/
structure Entry where
  label : String
  message : Bytes
deriving DecidableEq

/-- Everything absorbed so far, folded into a duplex. -/
structure Transcript where
  duplex : Duplex

namespace Transcript

/-- The frame in front of a message: its label and its length. -/
def frame (d : Duplex) (label : String) (length : Nat) : Duplex :=
  ((d.start .frame).absorb (Bytes.ofText label)).absorb (Bytes.littleEndian 4 length)

/-- Absorbs one message. -/
def append (t : Transcript) (entry : Entry) : Transcript :=
  ⟨((frame t.duplex entry.label entry.message.length).start .data).absorb entry.message⟩

/-- Absorbs messages in order. -/
def appendAll (t : Transcript) (entries : List Entry) : Transcript :=
  entries.foldl append t

/-- The transcript that has absorbed nothing. -/
def empty : Transcript := ⟨.ofProtocol "Merlin v1.0"⟩

/-- The entry that separates the uses of transcripts from each other. -/
def domain (name : Bytes) : Entry := ⟨"dom-sep", name⟩

/-- The transcript of a statement: its entries, absorbed in order. -/
def ofEntries (entries : List Entry) : Transcript := empty.appendAll entries

/-- Draws `size` challenge bytes. -/
def challengeBytes (t : Transcript) (label : String) (size : Nat) : Bytes × Transcript :=
  let (bytes, duplex) := Duplex.squeeze size ((frame t.duplex label size).start .draw)
  (bytes, ⟨duplex⟩)

/-- Draws a challenge scalar: 64 bytes, reduced. -/
def challengeScalar (t : Transcript) (label : String) : Scalar × Transcript :=
  let (bytes, t) := t.challengeBytes label 64
  (Scalar.ofWide bytes, t)

end Transcript

namespace Entry

/-- A message that is a number. -/
def number (label : String) (n : Nat) : Entry := ⟨label, Bytes.littleEndian 8 n⟩

/-- A message that is a scalar. -/
def scalar (label : String) (s : Scalar) : Entry := ⟨label, s.toBlock.bytes⟩

/-- A message that is the bytes of a point. -/
def block (label : String) (b : Block 32) : Entry := ⟨label, b.bytes⟩

/-- A message that is a point. -/
def point {P : Type} [PointGroup P] (label : String) (p : P) : Entry :=
  block label (PointGroup.encode p)

/-- The messages that are a list of points: their number, then each of them. -/
def points {P : Type} [PointGroup P] (label : String) (ps : List P) : List Entry :=
  number label ps.length :: ps.map (point label)

end Entry

end ConfidentialToken
