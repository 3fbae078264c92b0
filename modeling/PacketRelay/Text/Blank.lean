/-
  White space at the ends of a text.

  A character is blank when it has the Unicode property `White_Space`; the byte order mark and
  the zero width space do not have it. `trim` drops the blanks on both sides.
-/
namespace PacketRelay.Text

/-- The characters with the property `White_Space`. -/
def isBlank (c : Char) : Bool :=
  let n := c.toNat
  (9 ≤ n && n ≤ 13) || n == 0x20 || n == 0x85 || n == 0xA0 || n == 0x1680 ||
    (0x2000 ≤ n && n ≤ 0x200A) || n == 0x2028 || n == 0x2029 || n == 0x202F || n == 0x205F ||
    n == 0x3000

/-- Drops blanks at the end. -/
def trimEnd (s : List Char) : List Char := (s.reverse.dropWhile isBlank).reverse

/-- Drops blanks at both ends. -/
def trim (s : List Char) : List Char := trimEnd (s.dropWhile isBlank)

/-- `trim` on strings. -/
def trimmed (s : String) : String := String.ofList (trim s.toList)

end PacketRelay.Text
