/-
  The types of contract data and the values they hold.

  * `AbiType` is the type of an argument, `AbiType.Value` its values; those of a list of types are
    the tuples of `AbiType.Values`;
  * `isDynamic` says whether a value is stored away from its place, `minimumWords` how many words
    of 32 bytes a value takes at least, `cells` how many places have to be kept for it;
  * `collapsed` is the type as which an argument is read: one that holds no data has no parts;
  * `text` is how a type is written in signatures;
  * `fits` says whether a value lies in the range of its type.
-/
import PacketRelay.Decimal
import PacketRelay.Text.Utf8

namespace PacketRelay

/-- The type of an argument.  The components of a tuple may have names. -/
inductive AbiType where
  | uint (bits : Nat)
  | int (bits : Nat)
  | bool
  | address
  | fixedBytes (size : Nat)
  | function
  | bytes
  | string
  | array (element : AbiType)
  | fixedArray (size : Nat) (element : AbiType)
  | tuple (names : List String) (components : List AbiType)

namespace AbiType

mutual

/-- The values of a type.  Numbers may be outside the range of the type and strings are kept as
    the bytes that were received. -/
def Value : AbiType → Type
  | .uint _ => Nat
  | .int _ => Int
  | .bool => Bool
  | .address => Address
  | .fixedBytes size => FixedBytes size
  | .function => FixedBytes 24
  | .bytes => Bytes
  | .string => Bytes
  | .array element => List (Value element)
  | .fixedArray size element => { items : List (Value element) // items.length = size }
  | .tuple _ components => Values components

/-- The tuples of values of a list of types. -/
def Values : List AbiType → Type
  | [] => Unit
  | t :: rest => Value t × Values rest

end

mutual

/-- How signatures write a type. -/
def text : AbiType → String
  | .uint bits => "uint" ++ Decimal.text bits
  | .int bits => "int" ++ Decimal.text bits
  | .bool => "bool"
  | .address => "address"
  | .fixedBytes size => "bytes" ++ Decimal.text size
  | .function => "function"
  | .bytes => "bytes"
  | .string => "string"
  | .array element => text element ++ "[]"
  | .fixedArray size element => text element ++ "[" ++ Decimal.text size ++ "]"
  | .tuple _ components => "(" ++ String.intercalate "," (texts components) ++ ")"

/-- How signatures write types. -/
def texts : List AbiType → List String
  | [] => []
  | t :: rest => text t :: texts rest

end

mutual

/-- Whether a value is stored away from its place, which then holds its offset. -/
def isDynamic : AbiType → Bool
  | .bytes | .string | .array _ => true
  | .fixedArray _ element => isDynamic element
  | .tuple _ components => anyDynamic components
  | _ => false

/-- Whether one of the types is dynamic. -/
def anyDynamic : List AbiType → Bool
  | [] => false
  | t :: rest => isDynamic t || anyDynamic rest

end

mutual

/-- The words a value takes at least, those away from its place counted too. -/
def minimumWords : AbiType → Nat
  | .fixedArray size element => size * minimumWords element
  | .tuple _ components => sumMinimumWords components
  | _ => 1

/-- The words that values of all the types take at least. -/
def sumMinimumWords : List AbiType → Nat
  | [] => 0
  | t :: rest => minimumWords t + sumMinimumWords rest

end

mutual

/-- The places to be kept for a value before any of it is read: one for each part that the type
    alone shows. -/
def cells : AbiType → Nat
  | .array element => 1 + cells element
  | .fixedArray size element => 1 + size * cells element
  | .tuple _ components => 1 + sumCells components
  | _ => 1

/-- The places to be kept for values of all the types. -/
def sumCells : List AbiType → Nat
  | [] => 0
  | t :: rest => cells t + sumCells rest

end

mutual

/-- Whether values of the type hold no data. -/
def isHollow : AbiType → Bool
  | .array element => isHollow element
  | .fixedArray _ element => isHollow element
  | .tuple _ components => areHollow components
  | _ => false

/-- Whether values of all the types hold no data. -/
def areHollow : List AbiType → Bool
  | [] => true
  | t :: rest => isHollow t && areHollow rest

end

/-- The type as which an argument is read: if it holds no data, it has no items and no components
    either. -/
def collapsed (t : AbiType) : AbiType :=
  if t.isHollow then
    match t with
    | .tuple names _ => .tuple names []
    | _ => .fixedArray 0 (.tuple [] [])
  else t

mutual

/-- Whether numbers are in the range of their types and strings are texts. -/
def fits : (t : AbiType) → t.Value → Bool
  | .uint bits, n => decide ((show Nat from n) < 1 <<< bits)
  | .int bits, n =>
    let n : Int := n
    decide (-(1 <<< (bits - 1) : Nat) ≤ n ∧ n < (1 <<< (bits - 1) : Nat))
  | .string, b => (Utf8.decode b).isOk
  | .array element, items => List.all items (fits element)
  | .fixedArray _ element, items => List.all items.val (fits element)
  | .tuple _ components, values => fitAll components values
  | .bool, _ | .address, _ | .fixedBytes _, _ | .function, _ | .bytes, _ => true

/-- Whether each value fits its type. -/
def fitAll : (ts : List AbiType) → Values ts → Bool
  | [], _ => true
  | t :: rest, (v, values) => fits t v && fitAll rest values

end

end AbiType

end PacketRelay
