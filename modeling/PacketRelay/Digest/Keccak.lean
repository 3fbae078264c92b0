/-
  The hash function Keccak-256.

  A state of 25 words of 64 bits absorbs blocks of 136 bytes; `permute` is applied after each
  block and the first 32 bytes of the last state are the hash.  `keccak256` is the whole function.
-/
import PacketRelay.Bytes

namespace PacketRelay

namespace Keccak

/-- The state: word `(x, y)` stands at `x + 5 * y`. -/
abbrev State := Vector UInt64 25

/-- The place of word `(x, y)`, coordinates taken modulo five. -/
def place (x y : Nat) : Fin 25 := ⟨x % 5 + 5 * (y % 5), by omega⟩

/-- Word `(x, y)` of a state. -/
def lane (s : State) (x y : Nat) : UInt64 := s.get (place x y)

/-- The state whose word `(x, y)` is `f x y`. -/
def tabulate (f : Nat → Nat → UInt64) : State := Vector.ofFn fun i => f (i.val % 5) (i.val / 5)

/-- Rotates a word to the left. -/
def rotate (w : UInt64) (n : Nat) : UInt64 :=
  (w <<< UInt64.ofNat n) ||| (w >>> UInt64.ofNat (64 - n))

/-- By how much each word is rotated, in the order of the state. -/
def rotations : Vector Nat 25 :=
  #v[0, 1, 62, 28, 27, 36, 44, 6, 55, 20, 3, 10, 43, 25, 39, 41, 45, 15, 21, 8, 18, 2, 61, 56, 14]

/-- The constant of each round. -/
def roundConstants : List UInt64 :=
  [0x0000000000000001, 0x0000000000008082, 0x800000000000808A, 0x8000000080008000,
   0x000000000000808B, 0x0000000080000001, 0x8000000080008081, 0x8000000000008009,
   0x000000000000008A, 0x0000000000000088, 0x0000000080008009, 0x000000008000000A,
   0x000000008000808B, 0x800000000000008B, 0x8000000000008089, 0x8000000000008003,
   0x8000000000008002, 0x8000000000000080, 0x000000000000800A, 0x800000008000000A,
   0x8000000080008081, 0x8000000000008080, 0x0000000080000001, 0x8000000080008008]

/-- Adds to each word the parities of two neighbouring columns. -/
def theta (s : State) : State :=
  let c : Vector UInt64 5 := Vector.ofFn fun x =>
    lane s x 0 ^^^ lane s x 1 ^^^ lane s x 2 ^^^ lane s x 3 ^^^ lane s x 4
  let column (x : Nat) : UInt64 := c.get ⟨x % 5, by omega⟩
  tabulate fun x y => lane s x y ^^^ column (x + 4) ^^^ rotate (column (x + 1)) 1

/-- Rotates each word and moves it to its new place. -/
def rhoPi (s : State) : State :=
  tabulate fun x y =>
    let source := place (x + 3 * y) x
    rotate (s.get source) (rotations.get source)

/-- Combines each word with the next two of its row. -/
def chi (s : State) : State :=
  tabulate fun x y => lane s x y ^^^ (~~~ lane s (x + 1) y &&& lane s (x + 2) y)

/-- One round. -/
def round (s : State) (c : UInt64) : State :=
  let t := chi (rhoPi (theta s))
  tabulate fun x y => if x = 0 ∧ y = 0 then lane t 0 0 ^^^ c else lane t x y

/-- The permutation of the state. -/
def permute (s : State) : State := roundConstants.foldl round s

/-- The number that eight bytes write, least significant first. -/
def littleEndian (b : Bytes) : UInt64 := b.foldr (fun x n => n * 256 + x.toUInt64) 0

/-- The bytes of a word, least significant first. -/
def wordBytes (w : UInt64) : Bytes :=
  (List.range 8).map fun i => (w >>> UInt64.ofNat (8 * i)).toUInt8

/-- The number of bytes a block has. -/
def rate : Nat := 136

/-- Adds a block to the state. -/
def absorb (s : State) (block : Bytes) : State :=
  tabulate fun x y =>
    let i := x + 5 * y
    lane s x y ^^^ littleEndian ((block.drop (8 * i)).take 8)

/-- The input filled up to whole blocks: a one bit, zeros, a one bit. -/
def padded (b : Bytes) : Bytes :=
  let fill := rate - b.length % rate
  if fill = 1 then b ++ [0x81] else b ++ 0x01 :: List.replicate (fill - 2) 0 ++ [0x80]

/-- Absorbs the given number of blocks. -/
def absorbBlocks : Nat → State → Bytes → State
  | 0, s, _ => s
  | n + 1, s, b => absorbBlocks n (permute (absorb s (b.take rate))) (b.drop rate)

/-- The state after the whole input. -/
def digest (b : Bytes) : State :=
  absorbBlocks (b.length / rate + 1) (Vector.replicate 25 0) (padded b)

end Keccak

/-- The hash of a byte string. -/
def keccak256 (b : Bytes) : Hash :=
  let s := Keccak.digest b
  let words := [Keccak.lane s 0 0, Keccak.lane s 1 0, Keccak.lane s 2 0, Keccak.lane s 3 0]
  FixedBytes.ofNat 32 (Bytes.toNat (words.flatMap Keccak.wordBytes))

end PacketRelay
