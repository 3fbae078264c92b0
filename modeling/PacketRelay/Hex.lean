/-
  Hexadecimal text.

  * `Hex.encode` writes two lower-case digits a byte;
  * `Hex.decode` reads pairs of digits of either case from the bytes of a text, with the byte
    index of the first fault;
  * `withPrefix`, `withoutPrefix` manage a leading `0x` or `0X`, `truncateId` shortens an
    identifier for display, and `decodeText` reads a text with blanks and a prefix around it.
-/
import PacketRelay.Text.Blank
import PacketRelay.Text.Utf8

namespace PacketRelay.Hex

/-- The digit with value `n < 16`. -/
def digit (n : Nat) : Char := if n < 10 then Char.ofNat (48 + n) else Char.ofNat (87 + n)

/-- The value of a digit of either case, given as a byte. -/
def digitValue? (b : UInt8) : Option Nat :=
  let n := b.toNat
  if 48 ≤ n ∧ n ≤ 57 then some (n - 48)
  else if 97 ≤ n ∧ n ≤ 102 then some (n - 87)
  else if 65 ≤ n ∧ n ≤ 70 then some (n - 55)
  else none

/-- The value of a hexadecimal digit given as a character. -/
def charValue? (c : Char) : Option Nat :=
  if c.toNat < 0x80 then digitValue? (UInt8.ofNat c.toNat) else none

/-- Two digits for each byte. -/
def encodeChars (b : Bytes) : List Char :=
  b.flatMap fun x => [digit (x.toNat / 16), digit (x.toNat % 16)]

/-- Two digits for each byte, without a prefix. -/
def encode (b : Bytes) : String := String.ofList (encodeChars b)

/-- Two digits for each byte after `0x`. -/
def text (b : Bytes) : String := "0x" ++ encode b

/-- Why a text is not hexadecimal. -/
inductive Error where
  | oddLength
  /-- The byte at `index` is no digit. -/
  | invalidCharacter (byte : UInt8) (index : Nat)
deriving Repr, DecidableEq

/-- A byte shown as the character of the same number between single quotes, control characters
    escaped. -/
def quotedByte (b : UInt8) : String :=
  let n := b.toNat
  let body :=
    if n = 0 then "\\0"
    else if n = 9 then "\\t"
    else if n = 10 then "\\n"
    else if n = 13 then "\\r"
    else if n = 39 then "\\'"
    else if n = 92 then "\\\\"
    else if n < 32 ∨ (127 ≤ n ∧ n ≤ 160) ∨ n = 173 then
      "\\u\x7b" ++ String.ofList (Nat.toDigits 16 n) ++ "\x7d"
    else String.singleton (Char.ofNat n)
  "'" ++ body ++ "'"

/-- The wording of an error. -/
def Error.message : Error → String
  | .oddLength => "Odd number of digits"
  | .invalidCharacter byte index =>
    "Invalid character " ++ quotedByte byte ++ " at position " ++ toString index

/-- The value of a digit at `index`. -/
def digitAt (index : Nat) (b : UInt8) : Except Error Nat :=
  match digitValue? b with
  | some v => .ok v
  | none => .error (.invalidCharacter b index)

/-- Reads pairs of digits, the first of them at `index`. -/
def decodePairs (index : Nat) : Bytes → Except Error Bytes
  | hi :: lo :: rest => do
    let h ← digitAt index hi
    let l ← digitAt (index + 1) lo
    let tail ← decodePairs (index + 2) rest
    pure (UInt8.ofNat (h * 16 + l) :: tail)
  | _ => .ok []

/-- Reads an even number of digits; an odd number of bytes is the first fault reported. -/
def decode (digits : Bytes) : Except Error Bytes :=
  if digits.length % 2 = 1 then .error .oddLength else decodePairs 0 digits

/-- Whether a text starts with `0x` or `0X`. -/
def hasPrefix : List Char → Bool
  | '0' :: 'x' :: _ => true
  | '0' :: 'X' :: _ => true
  | _ => false

/-- Drops one leading `0x` or `0X`. -/
def dropPrefix (s : List Char) : List Char := if hasPrefix s then s.drop 2 else s

/-- Adds `0x` where no prefix stands. -/
def withPrefix (s : String) : String := if hasPrefix s.toList then s else "0x" ++ s

/-- The text without its prefix. -/
def withoutPrefix (s : String) : String := String.ofList (dropPrefix s.toList)

/-- Reads a text after dropping blanks at its ends and then one prefix. -/
def decodeText (s : String) : Except Error Bytes :=
  decode (utf8Chars (dropPrefix (Text.trim s.toList)))

/-- Reads a text that may have a prefix but no blanks. -/
def bytes? (s : String) : Option Bytes := (decode (utf8Chars (dropPrefix s.toList))).toOption

/-- The first characters of a text that take exactly `n` bytes, or `none` when a character
    straddles the cut. -/
def takeBytes? : List Char → Nat → Option (List Char)
  | _, 0 => some []
  | [], _ + 1 => none
  | c :: rest, n + 1 =>
    if c.utf8Size ≤ n + 1 then (takeBytes? rest (n + 1 - c.utf8Size)).map (c :: ·) else none

/-- An identifier cut to its prefix and eight bytes for display; `none` when the cut would fall
    inside a character. -/
def truncateId (id : String) : Option String :=
  let body := dropPrefix id.toList
  if (utf8Chars body).length ≤ 8 then some id
  else (takeBytes? body 8).map fun head =>
    String.ofList (id.toList.take (id.length - body.length) ++ head) ++ ".."

end PacketRelay.Hex
