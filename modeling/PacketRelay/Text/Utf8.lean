/-
  UTF-8: the bytes of a text, and what is wrong with bytes that are none.

  * `utf8` writes a text;
  * `Utf8.sequence` reads one character, or says how many bytes the ill-formed part has (none
    when the input ends inside a sequence that was well-formed so far);
  * `Utf8.decode` reads a whole text and reports the first ill-formed part by its index;
  * `Utf8.decodeLossy` puts one replacement character for each ill-formed part.
-/
import PacketRelay.Bytes

namespace PacketRelay

/-- The UTF-8 form of a text given by its characters. -/
def utf8Chars (s : List Char) : Bytes := s.flatMap String.utf8EncodeChar

/-- The UTF-8 form of a text. -/
def utf8 (s : String) : Bytes := utf8Chars s.toList

namespace Utf8

/-- What stands at the front of a byte string. -/
inductive Front where
  /-- A character and the number of bytes it takes. -/
  | char (c : Char) (size : Nat)
  /-- An ill-formed part of the given size. -/
  | invalid (size : Nat)
  /-- A sequence that the end of the input cuts off. -/
  | cut
deriving Repr, DecidableEq

/-- The range the second byte of a sequence must lie in, and the length of the sequence, by its
    first byte: overlong forms, surrogates and numbers above `10FFFF` are left out. -/
def lead (b : Nat) : Option (Nat × Nat × Nat) :=
  if 0xC2 ≤ b ∧ b ≤ 0xDF then some (0x80, 0xBF, 2)
  else if b = 0xE0 then some (0xA0, 0xBF, 3)
  else if b = 0xED then some (0x80, 0x9F, 3)
  else if 0xE1 ≤ b ∧ b ≤ 0xEF then some (0x80, 0xBF, 3)
  else if b = 0xF0 then some (0x90, 0xBF, 4)
  else if 0xF1 ≤ b ∧ b ≤ 0xF3 then some (0x80, 0xBF, 4)
  else if b = 0xF4 then some (0x80, 0x8F, 4)
  else none

/-- Reads the remaining continuation bytes of a sequence: `acc` is the number so far, `size` the
    bytes read so far and `left` those still to come. -/
def tail (acc size : Nat) : Nat → Bytes → Front
  | 0, _ => .char (Char.ofNat acc) size
  | _ + 1, [] => .cut
  | left + 1, b :: rest =>
    if 0x80 ≤ b.toNat ∧ b.toNat ≤ 0xBF then tail (acc * 64 + (b.toNat - 0x80)) (size + 1) left rest
    else .invalid size

/-- Reads one character from a byte string that starts with `b`. -/
def sequence (b : UInt8) (rest : Bytes) : Front :=
  if b.toNat < 0x80 then .char (Char.ofNat b.toNat) 1
  else match lead b.toNat with
    | none => .invalid 1
    | some (lo, hi, size) => match rest with
      | [] => .cut
      | c :: rest =>
        if lo ≤ c.toNat ∧ c.toNat ≤ hi then
          tail ((b.toNat % (1 <<< (7 - size))) * 64 + (c.toNat - 0x80)) 2 (size - 2) rest
        else .invalid 1

/-- Why a byte string is no text. -/
inductive Error where
  /-- `size` bytes from `index` on can belong to no text. -/
  | invalid (size index : Nat)
  /-- The sequence that starts at `index` is cut off. -/
  | incomplete (index : Nat)
deriving Repr, DecidableEq

/-- The wording of an error. -/
def Error.message : Error → String
  | .invalid size index =>
    "invalid utf-8 sequence of " ++ toString size ++ " bytes from index " ++ toString index
  | .incomplete index => "incomplete utf-8 byte sequence from index " ++ toString index

/-- Reads a text whose first byte has the given index; the first argument bounds the number of
    characters. -/
def decodeFrom : Nat → Nat → Bytes → Except Error (List Char)
  | 0, _, _ => .ok []
  | _ + 1, _, [] => .ok []
  | fuel + 1, index, b :: rest => match sequence b rest with
    | .char c size => do
      let cs ← decodeFrom fuel (index + size) ((b :: rest).drop size)
      pure (c :: cs)
    | .invalid size => .error (.invalid size index)
    | .cut => .error (.incomplete index)

/-- Reads a text, or reports where it is first ill-formed. -/
def decode (b : Bytes) : Except Error String := (decodeFrom b.length 0 b).map String.ofList

/-- Reads a text with one replacement character for each ill-formed part. -/
def decodeLossyFrom : Nat → Bytes → List Char
  | 0, _ => []
  | _ + 1, [] => []
  | fuel + 1, b :: rest => match sequence b rest with
    | .char c size => c :: decodeLossyFrom fuel ((b :: rest).drop size)
    | .invalid size => '\uFFFD' :: decodeLossyFrom fuel ((b :: rest).drop size)
    | .cut => ['\uFFFD']

/-- Reads a text, ill-formed parts replaced. -/
def decodeLossy (b : Bytes) : String := String.ofList (decodeLossyFrom b.length b)

end Utf8

end PacketRelay
