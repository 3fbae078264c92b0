/-
  Reading contract data.

  * `AbiType.decodeArguments` reads arguments from data that need not be canonical: padding and
    trailing bytes are ignored, offsets may point anywhere, numbers are not checked against the
    range of their types;
  * `AbiType.decodeCanonical` accepts nothing but the canonical encoding of values that fit their
    types.

  A `Frame` is the part of the data offsets count from.  Each indirection, array body, static
  tuple and static array opens a frame one level deeper, and levels are limited.
-/
import PacketRelay.Abi.Encoding

namespace PacketRelay

namespace Abi

/-- The deepest level of a frame. -/
def depthLimit : Nat := 16

/-- How many places may be kept for an argument before it is read. -/
def cellLimit : Nat := 1 <<< 30

/-- How many places may be kept for the items of an array that hold no data. -/
def hollowLimit : Nat := 1 <<< 20

/-- Whether data of `words` whole words can hold `n` items of a type. -/
def canHold (element : AbiType) (n words : Nat) : Bool :=
  n * element.minimumWords ≤ words && (element.minimumWords != 0 || n * element.cells ≤ hollowLimit)

/-- A part of the data, with its level. -/
structure Frame where
  bytes : Bytes
  depth : Nat

namespace Frame

/-- The frame that starts at an offset, one level deeper. -/
def child? (f : Frame) (offset : Nat) : Option Frame :=
  if f.depth < depthLimit ∧ offset ≤ f.bytes.length then
    some ⟨f.bytes.drop offset, f.depth + 1⟩
  else none

/-- The word at position `i`. -/
def word? (f : Frame) (i : Nat) : Option Bytes := Bytes.slice? f.bytes i 32

/-- The offset or length at position `i`, which must fit 64 bits. -/
def offset? (f : Frame) (i : Nat) : Option Nat := do
  let w ← f.word? i
  if Bytes.toNat w < 1 <<< 64 then some (Bytes.toNat w) else none

/-- The frame that the offset at position `i` points to. -/
def indirect? (f : Frame) (i : Nat) : Option Frame := do f.child? (← f.offset? i)

/-- The whole words from position `i` on. -/
def wordsFrom (f : Frame) (i : Nat) : Nat := (f.bytes.length - i) / 32

/-- The byte string that the offset at position `i` points to. -/
def sized? (f : Frame) (i : Nat) : Option Bytes := do
  let c ← f.indirect? i
  let n ← c.offset? 0
  Bytes.slice? c.bytes 32 n

/-- The first `n` bytes of the word at position `i`. -/
def leading? (f : Frame) (i n : Nat) : Option (FixedBytes n) := do
  FixedBytes.ofBytes? n ((← f.word? i).take n)

end Frame

/-- The number that a word writes in two's complement. -/
def signed (n : Nat) : Int := if n < 1 <<< 255 then n else (n : Int) - (1 <<< 256 : Nat)

/-- Reads `n` items one after the other: each step reads at a position and gives the next. -/
def repeatRead {α : Type} (step : Nat → Option (α × Nat)) :
    (n : Nat) → Nat → Option ({ items : List α // items.length = n } × Nat)
  | 0, i => some (⟨[], rfl⟩, i)
  | n + 1, i => do
    let (x, j) ← step i
    let (⟨xs, h⟩, k) ← repeatRead step n j
    pure (⟨x :: xs, congrArg (· + 1) h⟩, k)

end Abi

namespace AbiType

open Abi

mutual

/-- Reads a value at a position; the result holds the next position. -/
def decode : (t : AbiType) → Frame → Nat → Option (t.Value × Nat)
  | .uint _, f, i => do pure (Bytes.toNat (← f.word? i), i + 32)
  | .int _, f, i => do pure (signed (Bytes.toNat (← f.word? i)), i + 32)
  | .bool, f, i => do pure (Bytes.toNat (← f.word? i) != 0, i + 32)
  | .address, f, i => do pure (FixedBytes.ofNat 20 (Bytes.toNat (← f.word? i)), i + 32)
  | .fixedBytes size, f, i => do pure (← f.leading? i size, i + 32)
  | .function, f, i => do pure (← f.leading? i 24, i + 32)
  | .bytes, f, i => do pure (← f.sized? i, i + 32)
  | .string, f, i => do pure (← f.sized? i, i + 32)
  | .array element, f, i => do
    let c ← f.indirect? i
    let n ← c.offset? 0
    if n = 0 then pure ([], i + 32)
    else if canHold element n (c.wordsFrom 32) then
      let body ← c.child? 32
      let (items, _) ← repeatRead (decode element body) n 0
      pure (items.val, i + 32)
    else none
  | .fixedArray size element, f, i =>
    if isDynamic element then do
      let c ← f.indirect? i
      let (items, _) ← repeatRead (decode element c) size 0
      pure (items, i + 32)
    else do
      let c ← f.child? i
      let (items, j) ← repeatRead (decode element c) size 0
      pure (items, i + j)
  | .tuple _ components, f, i =>
    if anyDynamic components then do
      let c ← f.indirect? i
      let (values, _) ← decodeAll components c 0
      pure (values, i + 32)
    else do
      let c ← f.child? i
      let (values, j) ← decodeAll components c 0
      pure (values, i + j)

/-- Reads values one after the other. -/
def decodeAll : (ts : List AbiType) → Frame → Nat → Option (Values ts × Nat)
  | [], _, i => some ((), i)
  | t :: rest, f, i => do
    let (v, j) ← decode t f i
    let (values, k) ← decodeAll rest f j
    pure ((v, values), k)

end

/-- Reads arguments from a frame; before each of them as many words must be left as it takes at
    least, and it may not be too large to be kept. -/
def decodeArgumentsFrom : (ts : List AbiType) → Frame → Nat → Option (Values ts)
  | [], _, _ => some ()
  | t :: rest, f, i =>
    if f.wordsFrom i < t.minimumWords ∨ cellLimit < t.cells then none
    else do
      let (v, j) ← decode t f i
      let values ← decodeArgumentsFrom rest f j
      pure (v, values)

/-- Reads arguments from data that need not be canonical. -/
def decodeArguments (ts : List AbiType) (data : Bytes) : Option (Values ts) :=
  decodeArgumentsFrom ts ⟨data, 0⟩ 0

/-- Reads values from their canonical encoding. -/
def decodeCanonical (ts : List AbiType) (data : Bytes) : Option (Values ts) := do
  let (values, _) ← decodeAll ts ⟨data, 0⟩ 0
  if fitAll ts values && encodeAll ts values == data then some values else none

end AbiType

end PacketRelay
