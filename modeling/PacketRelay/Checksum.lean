/-
  Addresses as text.

  `FixedBytes.checksummed` writes an address with digits whose case is a checksum; `fixedBytes?` reads
  bytes of a given number whatever the case.
-/
import PacketRelay.Digest.Keccak
import PacketRelay.Hex

namespace PacketRelay

/-- Sets the case of each digit by the digit of a hash at the same place. -/
def checksumCase : List Char → List Char → List Char
  | c :: cs, h :: hs => (if '7' < h then c.toUpper else c) :: checksumCase cs hs
  | cs, _ => cs

/-- An address whose upper-case letters are a checksum of its digits. -/
def FixedBytes.checksummed (a : Address) : String :=
  let digits := Hex.encodeChars a.bytes
  let hash := Hex.encodeChars (keccak256 (utf8Chars digits)).bytes
  String.ofList ('0' :: 'x' :: checksumCase digits hash)

/-- Reads exactly `n` bytes of hexadecimal text with or without a prefix. -/
def fixedBytes? (n : Nat) (s : String) : Option (FixedBytes n) :=
  (Hex.bytes? s).bind (FixedBytes.ofBytes? n)

end PacketRelay
