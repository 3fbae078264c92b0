/-
  Decoded errors as documents.

  * `AbiType.render` gives the document of a value: numbers that need more than 64 bits become
    texts, bytes become hexadecimal texts, and a tuple with names becomes a table;
  * `DecodedError` is an error with its arguments, `text` writes it with the arguments as declared
    and `arguments` is their table.
-/
import PacketRelay.Abi.Type
import PacketRelay.Checksum
import PacketRelay.Json.Printer

namespace PacketRelay

/-- The key of an argument: its name or, if this is empty, its position. -/
def argumentKey (name : String) (index : Nat) : String :=
  if name.isEmpty then "arg" ++ Decimal.text index else name

/-- The keys of arguments with names, from a position on. -/
def argumentKeys : Nat → List String → List String
  | _, [] => []
  | i, name :: rest => argumentKey name i :: argumentKeys (i + 1) rest

namespace AbiType

/-- The document of a natural number. -/
def renderNatural (n : Nat) : Document :=
  if n < 1 <<< 64 then .integer n else .text (Decimal.text n)

/-- The document of an integer. -/
def renderInteger (n : Int) : Document :=
  if -(1 <<< 63 : Nat) ≤ n ∧ n < (1 <<< 63 : Nat) then .integer n
  else .text (String.ofList (Json.integerChars n))

mutual

/-- The document of a value. -/
def render : (t : AbiType) → t.Value → Document
  | .uint _, n => renderNatural n
  | .int _, n => renderInteger n
  | .bool, b => .bool b
  | .address, a => .text (FixedBytes.checksummed a)
  | .fixedBytes _, b => .text (Hex.text (FixedBytes.bytes b))
  | .function, b => .text (Hex.text (FixedBytes.bytes b))
  | .bytes, b => .text (Hex.text b)
  | .string, b => .text (Utf8.decodeLossy b)
  | .array element, items => .list (List.map (render element) items)
  | .fixedArray _ element, items => .list (List.map (render element) items.val)
  | .tuple names components, values =>
    let documents := renderAll components values
    if names.length = components.length then .object ((argumentKeys 0 names).zip documents)
    else .list documents

/-- The documents of values. -/
def renderAll : (ts : List AbiType) → Values ts → List Document
  | [], _ => []
  | t :: rest, (v, values) => render t v :: renderAll rest values

end

end AbiType

/-- An error with its arguments in the order of their declaration. -/
structure DecodedError where
  name : String
  arguments : List (String × Document)

namespace DecodedError

/-- The arguments as a table. -/
def table (e : DecodedError) : Document := .object e.arguments

/-- The name followed by the arguments in order. -/
def text (e : DecodedError) : String := e.name ++ Json.text (.table e.arguments)

end DecodedError

end PacketRelay
