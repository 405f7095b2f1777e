import ConfidentialToken.Bytes

/-!
# The Keccak permutation and SHAKE256

The permutation acts on twenty-five lanes of 64 bits; lane `x + 5 * y` stands in column `x` and row
`y`. Each step map says what every lane becomes, so no step writes into a state. `shake256` is the
sponge over it that draws as many bytes from a seed as asked for.
-/

namespace ConfidentialToken.Hash.Keccak

/-- Twenty-five lanes. -/
abbrev State := Vector UInt64 25

/-- Bytes in a state. -/
def stateSize : Nat := 200

/-- The lane at a position, positions counted round the state. -/
def State.lane (s : State) (i : Nat) : UInt64 :=
  s.get ⟨i % 25, Nat.mod_lt _ (by decide)⟩

/-- Turns a lane left. -/
def rotateLeft (x n : UInt64) : UInt64 :=
  if n = 0 then x else (x <<< n) ||| (x >>> (64 - n))

/-- By how much each lane turns. -/
def rotations : Vector UInt64 25 :=
  #v[0, 1, 62, 28, 27, 36, 44, 6, 55, 20, 3, 10, 43, 25, 39, 41, 45, 15, 21, 8, 18, 2, 61, 56, 14]

/-- What each round adds to the first lane. -/
def roundConstants : List UInt64 :=
  [0x0000000000000001, 0x0000000000008082, 0x800000000000808a, 0x8000000080008000,
   0x000000000000808b, 0x0000000080000001, 0x8000000080008081, 0x8000000000008009,
   0x000000000000008a, 0x0000000000000088, 0x0000000080008009, 0x000000008000000a,
   0x000000008000808b, 0x800000000000008b, 0x8000000000008089, 0x8000000000008003,
   0x8000000000008002, 0x8000000000000080, 0x000000000000800a, 0x800000008000000a,
   0x8000000080008081, 0x8000000000008080, 0x0000000080000001, 0x8000000080008008]

/-- Adds to every lane the parities of two neighbouring columns. -/
def theta (s : State) : State :=
  let parity : Vector UInt64 5 := .ofFn fun x =>
    s.lane x ^^^ s.lane (x + 5) ^^^ s.lane (x + 10) ^^^ s.lane (x + 15) ^^^ s.lane (x + 20)
  let column (x : Nat) : UInt64 := parity.get ⟨x % 5, Nat.mod_lt _ (by decide)⟩
  let effect : Vector UInt64 5 := .ofFn fun x => column (x + 4) ^^^ rotateLeft (column (x + 1)) 1
  .ofFn fun i => s.lane i ^^^ effect.get ⟨i.val % 5, Nat.mod_lt _ (by decide)⟩

/-- Turns every lane and moves it: the lane in column `x` and row `y` goes to column `y` and row
`2 * x + 3 * y`. -/
def rhoPi (s : State) : State :=
  .ofFn fun i =>
    let source := (i.val % 5 + 3 * (i.val / 5)) % 5 + 5 * (i.val % 5)
    rotateLeft (s.lane source) (rotations.get ⟨source % 25, Nat.mod_lt _ (by decide)⟩)

/-- Mixes each lane with the next two of its row. -/
def chi (s : State) : State :=
  .ofFn fun i =>
    let row := 5 * (i.val / 5)
    s.lane i ^^^ (~~~ s.lane (row + (i.val + 1) % 5) &&& s.lane (row + (i.val + 2) % 5))

/-- Adds a round's constant to the first lane. -/
def iota (constant : UInt64) (s : State) : State :=
  s.set 0 (s.lane 0 ^^^ constant)

/-- The permutation: twenty-four rounds. -/
def permute (s : State) : State :=
  roundConstants.foldl (fun s constant => iota constant (chi (rhoPi (theta s)))) s

/-- Reads a state from bytes, each lane lowest byte first; missing bytes count as zero. -/
def State.ofBytes (bytes : Bytes) : State :=
  .ofFn fun i => UInt64.ofNat (Bytes.toNat ((bytes.drop (8 * i.val)).take 8))

/-- Writes a state as 200 bytes. -/
def State.toBytes (s : State) : Bytes :=
  s.toList.flatMap fun lane => Bytes.littleEndian 8 lane.toNat

/-- The permutation on 200 bytes. -/
def permuteBytes (bytes : Bytes) : Bytes :=
  (permute (State.ofBytes bytes)).toBytes

/-- Adds `data` to the front of `state`, byte by byte. -/
def addBytes : (state data : Bytes) → Bytes
  | [], _ => []
  | s, [] => s
  | x :: s, y :: data => (x ^^^ y) :: addBytes s data

/-! ## SHAKE256 -/

/-- Bytes taken in or given out between two permutations. -/
def rate : Nat := 136

/-- The padded seed: a closing mark of the function, zeros, and a last bit at the block's end. -/
def pad (seed : Bytes) : Bytes :=
  let free := rate - seed.length % rate
  if free = 1 then seed ++ [0x9f]
  else seed ++ 0x1f :: List.replicate (free - 2) 0 ++ [0x80]

/-- Takes in `count` blocks. -/
def absorb : (count : Nat) → (state input : Bytes) → Bytes
  | 0, state, _ => state
  | count + 1, state, input =>
    let (block, rest) := input.splitAt rate
    absorb count (permuteBytes (addBytes state block)) rest

/-- Gives out `count` blocks, the first from the state as it stands. -/
def squeeze : (count : Nat) → (state : Bytes) → Bytes
  | 0, _ => []
  | count + 1, state => state.take rate ++ squeeze count (permuteBytes state)

/-- The first `size` bytes that SHAKE256 draws from a seed. -/
def shake256 (size : Nat) (seed : Bytes) : Bytes :=
  let padded := pad seed
  let state := absorb (padded.length / rate) (List.replicate stateSize 0) padded
  (squeeze (size / rate + 1) state).take size

end ConfidentialToken.Hash.Keccak
