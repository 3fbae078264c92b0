/-
  Reading TOML.

  A text is a list of lines: headers, which choose a table, and entries, which put a value into
  the table chosen last.  `Toml.parse` reads a whole text into a document with all tables
  sorted by key.
-/
import PacketRelay.Toml.Scalar
import PacketRelay.Toml.Table

namespace PacketRelay.Toml

/-! ## Values

In lists and in tables in braces, blanks, line breaks and comments may stand between any two parts,
and a comma may stand after the last item or entry. -/

/-- How deep lists and tables in braces may be nested. -/
def depthLimit : Nat := 80

/-- Drops blanks, line breaks and comments; the first argument bounds the number of lines. -/
def skipLines : Nat → List Char → List Char
  | 0, s => s
  | fuel + 1, s =>
    let s := skipComment (skip s)
    match newline? s with
    | some rest => skipLines fuel rest
    | none => s

/-- Drops blanks, line breaks and comments. -/
def skipAll (s : List Char) : List Char := skipLines (s.length + 1) s

/-- Splits a key into the path to a table and the key in it. -/
def splitKey (names : List String) : Option (List String × String) :=
  names.getLast?.map (names.dropLast, ·)

/-- Adds an entry to a table. -/
def addEntry (names : List String) (d : Document) (ms : Members) : Option Members := do
  let (path, key) ← splitKey names
  ms.insert path key d

mutual

/-- Reads a value, with `depth` more levels of nesting; the first argument bounds the length of what
    is read. -/
def value : Nat → (depth : Nat) → Front Document
  | 0, _, _ => none
  | fuel + 1, depth, s => match s with
    | '[' :: rest => match depth with
      | 0 => none
      | depth + 1 => (items fuel depth (skipAll rest)).map fun (ds, rest) => (.list ds, rest)
    | '\x7b' :: rest => match depth with
      | 0 => none
      | depth + 1 =>
        (entries fuel depth [] (skipAll rest)).map fun (ms, rest) => (ms.document, rest)
    | s => match quoted? s with
      | some (text, rest) => some (.text (String.ofList text), rest)
      | none => scalar s

/-- Reads the items of a list up to its end. -/
def items : Nat → (depth : Nat) → Front (List Document)
  | 0, _, _ => none
  | fuel + 1, depth, s => match s with
    | ']' :: rest => some ([], rest)
    | s => do
      let (d, rest) ← value fuel depth s
      match skipAll rest with
      | ']' :: rest => pure ([d], rest)
      | ',' :: rest => do
        let (ds, rest) ← items fuel depth (skipAll rest)
        pure (d :: ds, rest)
      | _ => none

/-- Reads the entries of a table in braces up to its end, after those already read. -/
def entries : Nat → (depth : Nat) → Members → Front Members
  | 0, _, _, _ => none
  | fuel + 1, depth, ms, s => match s with
    | '\x7d' :: rest => some (ms, rest)
    | s => do
      let (names, rest) ← key s
      match skipAll rest with
      | '=' :: rest => do
        let (d, rest) ← value fuel depth (skipAll rest)
        let ms ← addEntry names d ms
        match skipAll rest with
        | '\x7d' :: rest => pure (ms, rest)
        | ',' :: rest => entries fuel depth ms (skipAll rest)
        | _ => none
      | _ => none

end

/-! ## Lines -/

/-- What a line says. -/
inductive Line where
  | header (names : List String)
  | itemHeader (names : List String)
  | entry (names : List String) (d : Document)

/-- Reads what a line says. -/
def line : Front Line
  | '[' :: '[' :: rest => do
    let (names, rest) ← key rest
    match rest with
    | ']' :: ']' :: rest => pure (.itemHeader names, rest)
    | _ => none
  | '[' :: rest => do
    let (names, rest) ← key rest
    match rest with
    | ']' :: rest => pure (.header names, rest)
    | _ => none
  | s => do
    let (names, rest) ← key s
    match rest with
    | '=' :: rest => do
      let (d, rest) ← value (2 * s.length + 2) depthLimit (skip rest)
      pure (.entry names d, rest)
    | _ => none

/-- Reads all lines; the first argument bounds their number. -/
def lines : Nat → List Char → Option (List Line)
  | 0, _ => none
  | fuel + 1, s => match skipAll s with
    | [] => some []
    | s => do
      let (l, rest) ← line s
      match skipComment (skip rest) with
      | [] => pure [l]
      | rest => do
        let more ← lines fuel (← newline? rest)
        pure (l :: more)

/-- Does what lines say, with the table chosen by `header`. -/
def build (header : List String) : List Line → Members → Option Members
  | [], ms => some ms
  | .header names :: rest, ms => do
    let (path, key) ← splitKey names
    build names rest (← ms.define path key)
  | .itemHeader names :: rest, ms => do
    let (path, key) ← splitKey names
    build names rest (← ms.append path key)
  | .entry names d :: rest, ms => do
    let ms ← ms.within false (fun _ inner => addEntry names d inner) header .defined
    build header rest ms

/-- Drops the byte order mark. -/
def skipMark : List Char → List Char
  | '\uFEFF' :: rest => rest
  | s => s

/-- Reads a whole text. -/
def parse (s : String) : Option Document := do
  let s := skipMark s.toList
  let ms ← build [] (← lines (s.length + 1) s) []
  pure ms.document

end PacketRelay.Toml
