/-
  Byte strings and the numbers they write in base 256.

  * `Bytes.toNat` reads a byte string as a big-endian number and `Bytes.ofNat n` writes a number
    in `n` bytes, dropping what does not fit;
  * `FixedBytes n` is a byte string of exactly `n` bytes; addresses have 20, hashes 32 and
    selectors 4.
-/
namespace PacketRelay

/-- A byte string. -/
abbrev Bytes := List UInt8

namespace Bytes

/-- The number a byte string writes in base 256, most significant byte first. -/
def toNat (b : Bytes) : Nat := b.foldl (fun n x => n * 256 + x.toNat) 0

/-- The `n` low bytes of a number, most significant byte first. -/
def ofNat : Nat → Nat → Bytes
  | 0, _ => []
  | n + 1, v => ofNat n (v / 256) ++ [UInt8.ofNat v]

/-- The bytes of a number without leading zeros; zero has none. -/
def minimal (v : Nat) : Bytes := (ofNat 32 v).dropWhile (· == 0)

/-- The `n` bytes from position `i` on, or `none` when fewer are left. -/
def slice? (b : Bytes) (i n : Nat) : Option Bytes :=
  if i + n ≤ b.length then some ((b.drop i).take n) else none

@[simp] theorem length_ofNat (n v : Nat) : (ofNat n v).length = n := by
  induction n generalizing v with
  | zero => rfl
  | succ n ih => simp [ofNat, ih]

end Bytes

/-- A byte string of exactly `n` bytes. -/
structure FixedBytes (n : Nat) where
  bytes : Bytes
  size : bytes.length = n
deriving DecidableEq

namespace FixedBytes

variable {n : Nat}

/-- All bytes zero. -/
def zero (n : Nat) : FixedBytes n := ⟨List.replicate n 0, by simp⟩

instance : Inhabited (FixedBytes n) := ⟨zero n⟩

/-- Accepts a byte string of the right length only. -/
def ofBytes? (n : Nat) (b : Bytes) : Option (FixedBytes n) :=
  if h : b.length = n then some ⟨b, h⟩ else none

/-- The `n` low bytes of a number. -/
def ofNat (n v : Nat) : FixedBytes n := ⟨Bytes.ofNat n v, Bytes.length_ofNat n v⟩

/-- The number written by the bytes. -/
def toNat (b : FixedBytes n) : Nat := Bytes.toNat b.bytes

/-- Whether every byte is zero. -/
def isZero (b : FixedBytes n) : Bool := b.bytes.all (· == 0)

end FixedBytes

/-- An account or contract address. -/
abbrev Address := FixedBytes 20

/-- A 256-bit hash: of a transaction, an event signature, a storage path. -/
abbrev Hash := FixedBytes 32

/-- The leading four bytes of a signature's hash. -/
abbrev Selector := FixedBytes 4

end PacketRelay
