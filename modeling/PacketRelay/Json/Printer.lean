/-
  Writing JSON.

  `Json.text` writes a document without blanks, `Json.pretty` one member or item a line.  Only
  quotes, backslashes and control characters are escaped.
-/
import PacketRelay.Document
import PacketRelay.Hex

namespace PacketRelay.Json

/-- A character inside a string. -/
def escapedChar (c : Char) : List Char :=
  if c = '"' then ['\\', '"']
  else if c = '\\' then ['\\', '\\']
  else if c = '\x08' then ['\\', 'b']
  else if c = '\x0c' then ['\\', 'f']
  else if c = '\n' then ['\\', 'n']
  else if c = '\r' then ['\\', 'r']
  else if c = '\t' then ['\\', 't']
  else if c.toNat < 0x20 then
    ['\\', 'u', '0', '0', Hex.digit (c.toNat / 16), Hex.digit (c.toNat % 16)]
  else [c]

/-- A string between quotes. -/
def quoted (s : String) : List Char := '"' :: s.toList.flatMap escapedChar ++ ['"']

/-- An integer. -/
def integerChars (n : Int) : List Char :=
  (if n < 0 then ['-'] else []) ++ Decimal.digits n.natAbs

mutual

/-- A document without blanks. -/
def chars : Document → List Char
  | .null | .moment | .unreadable => ['n', 'u', 'l', 'l']
  | .bool true => ['t', 'r', 'u', 'e']
  | .bool false => ['f', 'a', 'l', 's', 'e']
  | .integer n => integerChars n
  | .float x => x.scientificChars
  | .text s => quoted s
  | .list ds => '[' :: itemChars ds ++ [']']
  | .table ms => '\x7b' :: memberChars ms ++ ['\x7d']

/-- Items with commas between them. -/
def itemChars : List Document → List Char
  | [] => []
  | [d] => chars d
  | d :: rest => chars d ++ ',' :: itemChars rest

/-- Members with commas between them. -/
def memberChars : List (String × Document) → List Char
  | [] => []
  | [(k, d)] => quoted k ++ ':' :: chars d
  | (k, d) :: rest => quoted k ++ ':' :: chars d ++ ',' :: memberChars rest

end

/-- A document without blanks. -/
def text (d : Document) : String := String.ofList (chars d)

/-! ## With line breaks -/

/-- The start of a line at a level. -/
def newline (level : Nat) : List Char := '\n' :: List.replicate (2 * level) ' '

mutual

/-- A document with one member or item a line. -/
def prettyChars (level : Nat) : Document → List Char
  | .list (d :: ds) => '[' :: prettyItems (level + 1) (d :: ds) ++ newline level ++ [']']
  | .table (m :: ms) => '\x7b' :: prettyMembers (level + 1) (m :: ms) ++ newline level ++ ['\x7d']
  | d => chars d

/-- Items, each on a line of its own. -/
def prettyItems (level : Nat) : List Document → List Char
  | [] => []
  | [d] => newline level ++ prettyChars level d
  | d :: rest => newline level ++ prettyChars level d ++ ',' :: prettyItems level rest

/-- Members, each on a line of its own. -/
def prettyMembers (level : Nat) : List (String × Document) → List Char
  | [] => []
  | [(k, d)] => newline level ++ quoted k ++ ':' :: ' ' :: prettyChars level d
  | (k, d) :: rest =>
    newline level ++ quoted k ++ ':' :: ' ' :: prettyChars level d ++
      ',' :: prettyMembers level rest

end

/-- A document with one member or item a line. -/
def pretty (d : Document) : String := String.ofList (prettyChars 0 d)

end PacketRelay.Json
