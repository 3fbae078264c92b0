/-
  Names of types.

  A name is a word, or a tuple of names, followed by the sizes of arrays.  `TypeName.parse?` reads a
  name and `TypeName.resolve?` finds the type it stands for: not every word is one.
-/
import PacketRelay.Abi.Type
import PacketRelay.Fee

namespace PacketRelay

/-- The name of a type. -/
inductive TypeName where
  | word (text : List Char)
  | tuple (items : List TypeName)
  | array (element : TypeName)
  | fixedArray (size : Nat) (element : TypeName)

namespace TypeName

/-! ## Reading -/

/-- Whether a word may start with a character. -/
def isLeading (c : Char) : Bool := c.isAlpha || c == '_' || c == '$'

/-- Whether a character may stand in a word. -/
def isInner (c : Char) : Bool := isLeading c || c.isDigit

/-- Whether a text is a word. -/
def isWord : List Char → Bool
  | [] => false
  | c :: rest => isLeading c && rest.all isInner

/-- Drops a word, if there is one. -/
def dropWord : List Char → List Char
  | [] => []
  | c :: rest => if isLeading c then rest.dropWhile isInner else c :: rest

/-- Reads a word.  Two words with a dot between them name an enumeration, which is held as a small
    number; the second one may be missing. -/
def word? (s : List Char) : Option (TypeName × List Char) :=
  let text := s.takeWhile isInner
  if !isWord text then none
  else match s.dropWhile isInner with
    | '.' :: rest => some (.word ['u', 'i', 'n', 't', '8'], dropWord rest)
    | rest => some (.word text, rest)

/-- Reads the sizes of arrays around an element; the first argument bounds their number. -/
def arrays : Nat → TypeName → List Char → Option (TypeName × List Char)
  | 0, t, s => some (t, s)
  | fuel + 1, t, s => match s with
    | '[' :: ']' :: rest => arrays fuel (.array t) rest
    | '[' :: rest =>
      let (digits, rest) := rest.span Char.isDigit
      match Decimal.readChars countMax digits, rest with
      | .ok (size + 1), ']' :: rest => arrays fuel (.fixedArray (size + 1) t) rest
      | _, _ => none
    | s => some (t, s)

/-- Whether a character is a blank between names. -/
def isBlank (c : Char) : Bool := c == ' ' || c == '\t'

/-- Drops blanks. -/
def skip (s : List Char) : List Char := s.dropWhile isBlank

/-- How deep tuples may be nested. -/
def depthLimit : Nat := 79

mutual

/-- Reads a name, with `depth` more levels of tuples; the first argument bounds its length. -/
def name : Nat → (depth : Nat) → List Char → Option (TypeName × List Char)
  | 0, _, _ => none
  | fuel + 1, depth, s => do
    let (stem, rest) ← match s with
      | '(' :: rest => tuple? fuel depth rest
      | 't' :: 'u' :: 'p' :: 'l' :: 'e' :: '(' :: rest => tuple? fuel depth rest
      | s => word? s
    arrays rest.length stem rest

/-- Reads a tuple after its opening bracket. -/
def tuple? : Nat → (depth : Nat) → List Char → Option (TypeName × List Char)
  | fuel + 1, depth + 1, s => match skip s with
    | ')' :: rest => some (.tuple [], rest)
    | s => (names fuel depth s).map fun (items, rest) => (.tuple items, rest)
  | _, _, _ => none

/-- Reads the names in a tuple up to its closing bracket.  A comma follows its name at once, and one
    may stand after the last name. -/
def names : Nat → (depth : Nat) → List Char → Option (List TypeName × List Char)
  | 0, _, _ => none
  | fuel + 1, depth, s => do
    let (t, rest) ← name fuel depth s
    match rest with
    | ',' :: rest => match skip rest with
      | ')' :: rest => pure ([t], rest)
      | rest => do
        let (more, rest) ← names fuel depth rest
        pure (t :: more, rest)
    | rest => match skip rest with
      | ')' :: rest => pure ([t], rest)
      | _ => none

end

/-- Reads a whole text. -/
def parse? (s : String) : Option TypeName :=
  match name (3 * s.length + 3) depthLimit s.toList with
  | some (t, []) => some t
  | _ => none

/-! ## Meaning -/

/-- The number of bits that digits write, if there are such numbers. -/
def bits? (digits : List Char) : Option Nat :=
  match Decimal.readChars 256 digits with
  | .ok n => if n ≠ 0 ∧ n % 8 = 0 then some n else none
  | .error _ => none

/-- The type a word stands for. -/
def wordType? : List Char → Option AbiType
  | ['a', 'd', 'd', 'r', 'e', 's', 's'] => some .address
  | ['f', 'u', 'n', 'c', 't', 'i', 'o', 'n'] => some .function
  | ['b', 'o', 'o', 'l'] => some .bool
  | ['s', 't', 'r', 'i', 'n', 'g'] => some .string
  | ['b', 'y', 't', 'e', 's'] => some .bytes
  | ['u', 'i', 'n', 't'] => some (.uint 256)
  | ['i', 'n', 't'] => some (.int 256)
  | 'b' :: 'y' :: 't' :: 'e' :: 's' :: digits => match Decimal.readChars 32 digits with
    | .ok (n + 1) => some (.fixedBytes (n + 1))
    | _ => none
  | 'u' :: 'i' :: 'n' :: 't' :: digits => (bits? digits).map .uint
  | 'i' :: 'n' :: 't' :: digits => (bits? digits).map .int
  | _ => none

mutual

/-- The type a name stands for. -/
def resolve? : TypeName → Option AbiType
  | word text => wordType? text
  | tuple items => (resolveAll? items).map (.tuple [])
  | array element => (resolve? element).map .array
  | fixedArray size element => (resolve? element).map (.fixedArray size)

/-- The types that names stand for. -/
def resolveAll? : List TypeName → Option (List AbiType)
  | [] => some []
  | t :: rest => do
    let first ← resolve? t
    let more ← resolveAll? rest
    pure (first :: more)

end

/-- The arrays of a name around another element. -/
def around (core : AbiType) : TypeName → AbiType
  | array element => .array (around core element)
  | fixedArray size element => .fixedArray size (around core element)
  | _ => core

end TypeName

end PacketRelay
