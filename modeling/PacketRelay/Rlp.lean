/-
  The length-prefixed form in which transactions are signed and sent.

  An item is a byte string or a list of items; `Rlp.encode` writes it with a prefix that gives its
  kind and length.
-/
import PacketRelay.Bytes

namespace PacketRelay

/-- A byte string or a list of items. -/
inductive Rlp where
  | bytes (b : Bytes)
  | list (items : List Rlp)

namespace Rlp

/-- The bytes of a number without leading zeros. -/
def number (n : Nat) : Rlp := .bytes (Bytes.minimal n)

/-- The prefix of a payload: one byte for short ones, else the length follows. -/
def lengthPrefix (offset length : Nat) : Bytes :=
  if length < 56 then [UInt8.ofNat (offset + length)]
  else
    let size := Bytes.minimal length
    UInt8.ofNat (offset + 55 + size.length) :: size

/-- A byte string with its prefix; a byte below `0x80` stands for itself. -/
def encodeBytes : Bytes → Bytes
  | [b] => if b < 0x80 then [b] else [0x81, b]
  | b => lengthPrefix 0x80 b.length ++ b

mutual

/-- An item with its prefix. -/
def encode : Rlp → Bytes
  | .bytes b => encodeBytes b
  | .list items =>
    let payload := encodeAll items
    lengthPrefix 0xc0 payload.length ++ payload

/-- The items of a list one after the other. -/
def encodeAll : List Rlp → Bytes
  | [] => []
  | item :: rest => encode item ++ encodeAll rest

end

end Rlp

end PacketRelay
