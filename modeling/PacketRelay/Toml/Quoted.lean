/-
  Blanks, quoted texts and keys in TOML.

  A reader here takes the characters of a text and gives what it read and the characters that are
  left.

  * `basic` reads a text between double quotes, with escapes, and `literal` one between single
    quotes, without;
  * `basicLines` and `literalLines` read texts over several lines, between three quotes.
-/
import PacketRelay.Json.Parser

namespace PacketRelay.Toml

/-- A reader of the front of a text. -/
abbrev Front (α : Type) := List Char → Option (α × List Char)

/-- Whether a character is a blank inside a line. -/
def isBlank (c : Char) : Bool := c == ' ' || c == '\t'

/-- Drops blanks. -/
def skip (s : List Char) : List Char := s.dropWhile isBlank

/-- Whether a character may stand in comments and quoted texts. -/
def isPrintable (c : Char) : Bool := c == '\t' || (0x20 ≤ c.toNat && c.toNat != 0x7F)

/-- Drops a line break. -/
def newline? : List Char → Option (List Char)
  | '\n' :: rest => some rest
  | '\r' :: '\n' :: rest => some rest
  | _ => none

/-- Drops a comment, if there is one. -/
def skipComment : List Char → List Char
  | '#' :: rest => rest.dropWhile isPrintable
  | s => s

/-! ## Escapes -/

/-- What an escape of one letter stands for. -/
def escaped? : Char → Option Char
  | '"' => some '"'
  | '\\' => some '\\'
  | 'b' => some '\x08'
  | 'f' => some '\x0c'
  | 'n' => some '\n'
  | 'r' => some '\r'
  | 't' => some '\t'
  | 'e' => some '\x1b'
  | _ => none

/-- The character with a number. -/
def scalar? (n : Nat) : Option Char := if n.isValidChar then some (Char.ofNat n) else none

/-- A character before a text. -/
def consText (c : Char) : Option (List Char × List Char) → Option (List Char × List Char)
  | some (text, rest) => some (c :: text, rest)
  | none => none

/-! ## Texts on one line -/

/-- Reads a text up to its closing double quote. -/
def basic : Front (List Char)
  | [] => none
  | '"' :: rest => some ([], rest)
  | '\\' :: 'x' :: a :: b :: rest => do
    let x ← scalar? (← Json.unit? '0' '0' a b)
    consText x (basic rest)
  | '\\' :: 'u' :: a :: b :: c :: d :: rest => do
    let x ← scalar? (← Json.unit? a b c d)
    consText x (basic rest)
  | '\\' :: 'U' :: a :: b :: c :: d :: e :: f :: g :: h :: rest => do
    let x ← scalar? ((← Json.unit? a b c d) * 0x10000 + (← Json.unit? e f g h))
    consText x (basic rest)
  | '\\' :: c :: rest => do
    let x ← escaped? c
    consText x (basic rest)
  | c :: rest => if isPrintable c && c != '\\' then consText c (basic rest) else none

/-- Reads a text up to its closing single quote. -/
def literal : Front (List Char)
  | [] => none
  | '\'' :: rest => some ([], rest)
  | c :: rest => if isPrintable c then consText c (literal rest) else none

/-! ## Texts over several lines -/

/-- Reads the end of a text over several lines: three quotes, before which up to two more may
    belong to the text. -/
def closing? (quote : Char) (s : List Char) : Option (List Char × List Char) :=
  let run := s.takeWhile (· == quote)
  if 3 ≤ run.length then
    if run.length ≤ 5 then some (run.drop 3, s.drop run.length) else some (run.take 2, s.drop 5)
  else none

/-- Whether only blanks stand before the end of the line. -/
def endsLine (s : List Char) : Bool := (newline? (skip s)).isSome

/-- Reads a text up to three double quotes.  After a backslash at the end of a line, blanks and
    line breaks are `skipped` up to the next other character. -/
def basicLines : (skipped : Bool) → Front (List Char)
  | _, [] => none
  | skipped, '\r' :: '\n' :: rest =>
    if skipped then basicLines true rest
    else consText '\r' (consText '\n' (basicLines false rest))
  | skipped, '\n' :: rest =>
    if skipped then basicLines true rest else consText '\n' (basicLines false rest)
  | _, '\\' :: 'x' :: a :: b :: rest => do
    let x ← scalar? (← Json.unit? '0' '0' a b)
    consText x (basicLines false rest)
  | _, '\\' :: 'u' :: a :: b :: c :: d :: rest => do
    let x ← scalar? (← Json.unit? a b c d)
    consText x (basicLines false rest)
  | _, '\\' :: 'U' :: a :: b :: c :: d :: e :: f :: g :: h :: rest => do
    let x ← scalar? ((← Json.unit? a b c d) * 0x10000 + (← Json.unit? e f g h))
    consText x (basicLines false rest)
  | _, '\\' :: c :: rest =>
    if endsLine (c :: rest) then basicLines true (c :: rest)
    else do
      let x ← escaped? c
      consText x (basicLines false rest)
  | skipped, c :: rest => match closing? '"' (c :: rest) with
    | some result => some result
    | none =>
      if skipped && isBlank c then basicLines true rest
      else if isPrintable c && c != '\\' then consText c (basicLines false rest)
      else none

/-- Reads a text up to three single quotes. -/
def literalLines : Front (List Char)
  | [] => none
  | '\r' :: '\n' :: rest => consText '\r' (consText '\n' (literalLines rest))
  | '\n' :: rest => consText '\n' (literalLines rest)
  | c :: rest => match closing? '\'' (c :: rest) with
    | some result => some result
    | none => if isPrintable c then consText c (literalLines rest) else none

/-- Drops the line break right after the opening of a text over several lines. -/
def opened (s : List Char) : List Char := (newline? s).getD s

/-- Reads a quoted text. -/
def quoted? : List Char → Option (List Char × List Char)
  | '"' :: '"' :: '"' :: rest => basicLines false (opened rest)
  | '\'' :: '\'' :: '\'' :: rest => literalLines (opened rest)
  | '"' :: rest => basic rest
  | '\'' :: rest => literal rest
  | _ => none

/-! ## Keys -/

/-- Whether a character may stand in a key without quotes. -/
def isBare (c : Char) : Bool := c.isAlphanum || c == '_' || c == '-'

/-- Reads one name. -/
def name : Front String
  | '"' :: rest => (basic rest).map fun (text, rest) => (String.ofList text, rest)
  | '\'' :: rest => (literal rest).map fun (text, rest) => (String.ofList text, rest)
  | s =>
    let text := s.takeWhile isBare
    if text.isEmpty then none else some (String.ofList text, s.dropWhile isBare)

/-- Reads names separated by dots, the first argument bounds their number. -/
def names : Nat → Front (List String)
  | 0, _ => none
  | fuel + 1, s => do
    let (first, rest) ← name (skip s)
    match skip rest with
    | '.' :: rest => do
      let (more, rest) ← names fuel rest
      pure (first :: more, rest)
    | rest => pure ([first], rest)

/-- Reads a key: names separated by dots. -/
def key (s : List Char) : Option (List String × List Char) := names (s.length + 1) s

end PacketRelay.Toml
