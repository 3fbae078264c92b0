/-
  Reading JSON.

  `Json.parse` reads a whole text.  It accepts the grammar of JSON and no more; what the grammar
  allows but what stands for nothing, such as half of a surrogate pair, becomes unreadable.
-/
import PacketRelay.Hex
import PacketRelay.Json.Number

namespace PacketRelay.Json

/-- Drops blanks. -/
def skip (s : List Char) : List Char :=
  s.dropWhile fun c => c == ' ' || c == '\n' || c == '\t' || c == '\r'

/-! ## Strings -/

/-- The number that four digits write. -/
def unit? (a b c d : Char) : Option Nat := do
  let high := (← Hex.charValue? a) * 16 + (← Hex.charValue? b)
  let low := (← Hex.charValue? c) * 16 + (← Hex.charValue? d)
  pure (high * 256 + low)

/-- What an escape of one letter stands for. -/
def escaped? : Char → Option Char
  | '"' => some '"'
  | '\\' => some '\\'
  | '/' => some '/'
  | 'b' => some '\x08'
  | 'f' => some '\x0c'
  | 'n' => some '\n'
  | 'r' => some '\r'
  | 't' => some '\t'
  | _ => none

/-- A character before a text that may be unreadable. -/
def consText (c : Char) : Option (Option (List Char) × List Char) →
    Option (Option (List Char) × List Char)
  | some (text, rest) => some (text.map (c :: ·), rest)
  | none => none

/-- An unreadable part before a text. -/
def spoilText : Option (Option (List Char) × List Char) → Option (Option (List Char) × List Char)
  | some (_, rest) => some (none, rest)
  | none => none

/-- Whether a unit is the first half of a pair. -/
def isHigh (n : Nat) : Bool := 0xD800 ≤ n && n ≤ 0xDBFF

/-- Whether a unit is the second half of a pair. -/
def isLow (n : Nat) : Bool := 0xDC00 ≤ n && n ≤ 0xDFFF

/-- Reads a string after its opening quote: its text, if it stands for one, and what follows. -/
def stringTail : List Char → Option (Option (List Char) × List Char)
  | [] => none
  | '"' :: rest => some (some [], rest)
  | '\\' :: 'u' :: a :: b :: c :: d :: '\\' :: 'u' :: e :: f :: g :: h :: rest =>
    match unit? a b c d, unit? e f g h with
    | some high, some low =>
      if isHigh high && isLow low then
        consText (Char.ofNat (0x10000 + (high - 0xD800) * 0x400 + (low - 0xDC00))) (stringTail rest)
      else
        let more := stringTail ('\\' :: 'u' :: e :: f :: g :: h :: rest)
        if isHigh high || isLow high then spoilText more else consText (Char.ofNat high) more
    | _, _ => none
  | '\\' :: 'u' :: a :: b :: c :: d :: rest => match unit? a b c d with
    | some n =>
      if isHigh n || isLow n then spoilText (stringTail rest)
      else consText (Char.ofNat n) (stringTail rest)
    | none => none
  | '\\' :: c :: rest => match escaped? c with
    | some x => consText x (stringTail rest)
    | none => none
  | c :: rest => if c.toNat < 0x20 ∨ c = '\\' then none else consText c (stringTail rest)

/-! ## Numbers -/

/-- The decimal digits at the front of a text, and what follows. -/
def digits (s : List Char) : List Char × List Char := s.span Char.isDigit

/-- The number that decimal digits write. -/
def digitsValue (ds : List Char) : Nat := ds.foldl (fun n c => n * 10 + (c.toNat - 48)) 0

/-- Reads the exponent of a number, if there is one. -/
def exponentPart : List Char → Option (Option Int × List Char)
  | c :: rest =>
    if c = 'e' ∨ c = 'E' then
      let (negative, rest) := match rest with
        | '-' :: rest => (true, rest)
        | '+' :: rest => (false, rest)
        | rest => (false, rest)
      match digits rest with
      | ([], _) => none
      | (ds, rest) =>
        let n : Int := digitsValue ds
        some (some (if negative then -n else n), rest)
    else some (none, c :: rest)
  | [] => some (none, [])

/-- Reads the fraction of a number, if there is one. -/
def fractionPart : List Char → Option (Option (List Char) × List Char)
  | '.' :: rest => match digits rest with
    | ([], _) => none
    | (ds, rest) => some (some ds, rest)
  | s => some (none, s)

/-- What a number stands for. -/
def numberOf (negative : Bool) (whole : List Char) (fraction : Option (List Char))
    (exponent : Option Int) : Document :=
  match fraction, exponent with
  | none, none =>
    let n : Int := digitsValue whole
    let n := if negative then -n else n
    if negative ∧ n = 0 then .float (.zero true)
    else if (ofInteger n).isSome then .integer n
    else .unreadable
  | fraction, exponent =>
    match ofDecimal negative whole (fraction.getD []) (exponent.getD 0) with
    | some x => .float x
    | none => .unreadable

/-- Reads a number without its sign. -/
def numberTail (negative : Bool) (s : List Char) : Option (Document × List Char) :=
  match digits s with
  | ([], _) => none
  | (whole, rest) =>
    if whole.head? = some '0' ∧ 1 < whole.length then none
    else do
      let (fraction, rest) ← fractionPart rest
      let (exponent, rest) ← exponentPart rest
      pure (numberOf negative whole fraction exponent, rest)

/-! ## Values -/

/-- Drops a word from the front of a text. -/
def word? : List Char → List Char → Option (List Char)
  | [], s => some s
  | _ :: _, [] => none
  | w :: ws, c :: rest => if w = c then word? ws rest else none

/-- A table, unless one of its keys is unreadable. -/
def tableOf (members : List (Option (List Char) × Document)) : Document :=
  match members.mapM fun (k, d) => k.map fun k => (String.ofList k, d) with
  | some members => .table members
  | none => .unreadable

mutual

/-- Reads a value; the first argument bounds the depth and length of what is read. -/
def value : Nat → List Char → Option (Document × List Char)
  | 0, _ => none
  | fuel + 1, s => match skip s with
    | 'n' :: rest => (word? ['u', 'l', 'l'] rest).map (.null, ·)
    | 't' :: rest => (word? ['r', 'u', 'e'] rest).map (.bool true, ·)
    | 'f' :: rest => (word? ['a', 'l', 's', 'e'] rest).map (.bool false, ·)
    | '"' :: rest => (stringTail rest).map fun (text, rest) =>
      (match text with
        | some cs => .text (String.ofList cs)
        | none => .unreadable, rest)
    | '-' :: rest => numberTail true rest
    | '[' :: rest => match skip rest with
      | ']' :: rest => some (.list [], rest)
      | rest => (items fuel rest).map fun (ds, rest) => (.list ds, rest)
    | '\x7b' :: rest => match skip rest with
      | '\x7d' :: rest => some (.table [], rest)
      | rest => (members fuel rest).map fun (ms, rest) => (tableOf ms, rest)
    | rest => numberTail false rest

/-- Reads the items of a list up to its end. -/
def items : Nat → List Char → Option (List Document × List Char)
  | 0, _ => none
  | fuel + 1, s => do
    let (d, rest) ← value fuel s
    match skip rest with
    | ']' :: rest => pure ([d], rest)
    | ',' :: rest => do
      let (ds, rest) ← items fuel rest
      pure (d :: ds, rest)
    | _ => none

/-- Reads the members of a table up to its end. -/
def members : Nat → List Char → Option (List (Option (List Char) × Document) × List Char)
  | 0, _ => none
  | fuel + 1, s => match skip s with
    | '"' :: rest => do
      let (k, rest) ← stringTail rest
      match skip rest with
      | ':' :: rest => do
        let (d, rest) ← value fuel rest
        match skip rest with
        | '\x7d' :: rest => pure ([(k, d)], rest)
        | ',' :: rest => do
          let (ms, rest) ← members fuel rest
          pure ((k, d) :: ms, rest)
        | _ => none
      | _ => none
    | _ => none

end

/-- Reads a whole text. -/
def parseChars (s : List Char) : Option Document :=
  match value (2 * s.length + 2) s with
  | some (d, rest) => if (skip rest).isEmpty then some d else none
  | none => none

/-- Reads a whole text. -/
def parse (s : String) : Option Document := parseChars s.toList

/-! ## Kept values -/

/-- The greatest depth of a kept value. -/
def depthLimit : Nat := 127

/-- Reads a whole text into a value that is kept: its tables are sorted, and it is not nested too
    deeply. -/
def parseKept (s : String) : Option Document := do
  let d ← parse s
  if d.isReadable && d.depth ≤ depthLimit then pure d.merged else none

end PacketRelay.Json
