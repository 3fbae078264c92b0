/-
  Numbers, dates and times in TOML.

  * `Scalar.integer?` reads integers in four bases, `Scalar.float?` numbers that need not be whole.
    Single underscores may stand between digits;
  * `Scalar.isMoment` accepts dates, times, and dates with times;
  * `scalar` reads any of them, or a truth value, at the front of a text.
-/
import PacketRelay.Toml.Quoted

namespace PacketRelay.Toml

namespace Scalar

/-- The digits of a number with single underscores between them. -/
def digits? (isDigit : Char → Bool) : List Char → Option (List Char)
  | [] => none
  | [c] => if isDigit c then some [c] else none
  | c :: '_' :: rest => if isDigit c then (digits? isDigit rest).map (c :: ·) else none
  | c :: rest => if isDigit c then (digits? isDigit rest).map (c :: ·) else none

/-- The value of digits in a base. -/
def valueIn (base : Nat) (ds : List Char) : Nat :=
  ds.foldl (fun n c => n * base + (Hex.charValue? c).getD 0) 0

/-- Takes a sign off: whether it is a minus, and what follows. -/
def signed : List Char → Bool × List Char
  | '-' :: rest => (true, rest)
  | '+' :: rest => (false, rest)
  | s => (false, s)

/-- Decimal digits without a leading zero. -/
def whole? (s : List Char) : Option (List Char) := do
  let ds ← digits? Char.isDigit s
  if ds.head? = some '0' ∧ 1 < ds.length then none else some ds

/-- An integer; one that needs more than 128 bits is unreadable. -/
def ofInteger (n : Int) : Document :=
  if -(1 <<< 127 : Nat) ≤ n ∧ n < (1 <<< 128 : Nat) then .integer n else .unreadable

/-- Reads an integer. -/
def integer? : List Char → Option Document
  | '0' :: 'x' :: s =>
    (digits? (fun c => (Hex.charValue? c).isSome) s).map (ofInteger <| valueIn 16 ·)
  | '0' :: 'o' :: s => (digits? (fun c => '0' ≤ c ∧ c ≤ '7') s).map (ofInteger <| valueIn 8 ·)
  | '0' :: 'b' :: s => (digits? (fun c => c == '0' || c == '1') s).map (ofInteger <| valueIn 2 ·)
  | s => do
    let (negative, s) := signed s
    let n : Int := valueIn 10 (← whole? s)
    pure (ofInteger (if negative then -n else n))

/-- Splits a text before the first character that satisfies a condition. -/
def splitAt? (p : Char → Bool) (s : List Char) : List Char × Option (List Char) :=
  match s.dropWhile (!p ·) with
  | [] => (s, none)
  | _ :: rest => (s.takeWhile (!p ·), some rest)

/-- Reads an exponent. -/
def exponent? : Option (List Char) → Option Int
  | none => some 0
  | some s => do
    let (negative, s) := signed s
    let n : Int := valueIn 10 (← digits? Char.isDigit s)
    pure (if negative then -n else n)

/-- Reads a number with a fraction or an exponent; one above all bounds is unreadable. -/
def decimal? (negative : Bool) (s : List Char) : Option Document := do
  let (mantissa, exponent) := splitAt? (fun c => c == 'e' || c == 'E') s
  let (left, fraction) := splitAt? (· == '.') mantissa
  if exponent.isNone ∧ fraction.isNone then none
  let whole ← whole? left
  let fraction ← match fraction with
    | none => some []
    | some ds => digits? Char.isDigit ds
  let x := Binary64.ofDecimal negative (valueIn 10 (whole ++ fraction))
    ((← exponent? exponent) - fraction.length)
  pure (if x.isFinite then .float x else .unreadable)

/-- Reads a number that need not be whole. -/
def float? (s : List Char) : Option Document :=
  let (negative, s) := signed s
  if s = ['i', 'n', 'f'] then some (.float (.infinite negative))
  else if s = ['n', 'a', 'n'] then some (.float .nan)
  else decimal? negative s

/-! ## Dates and times -/

/-- Reads a number of exactly `n` digits. -/
def fixed? (n : Nat) (s : List Char) : Option (Nat × List Char) :=
  let ds := s.take n
  if ds.length = n ∧ ds.all Char.isDigit then some (valueIn 10 ds, s.drop n) else none

/-- Drops one character. -/
def char? (c : Char) : List Char → Option (List Char)
  | d :: rest => if c = d then some rest else none
  | [] => none

/-- Whether a year has a 29th of February. -/
def isLeap (year : Nat) : Bool := year % 4 == 0 && (year % 100 != 0 || year % 400 == 0)

/-- How many days a month has. -/
def monthDays (year month : Nat) : Nat :=
  if month = 2 then if isLeap year then 29 else 28
  else if month = 4 ∨ month = 6 ∨ month = 9 ∨ month = 11 then 30
  else 31

/-- Reads a date. -/
def date? (s : List Char) : Option (List Char) := do
  let (year, s) ← fixed? 4 s
  let (month, s) ← fixed? 2 (← char? '-' s)
  let (day, s) ← fixed? 2 (← char? '-' s)
  if 1 ≤ month ∧ month ≤ 12 ∧ 1 ≤ day ∧ day ≤ monthDays year month then some s else none

/-- Reads the seconds of a time, if there are any. -/
def seconds? : List Char → Option (List Char)
  | ':' :: s => do
    let (second, s) ← fixed? 2 s
    if 60 < second then none
    match s with
    | '.' :: s =>
      if (s.takeWhile Char.isDigit).isEmpty then none else some (s.dropWhile Char.isDigit)
    | s => some s
  | s => some s

/-- Reads a time of day. -/
def time? (s : List Char) : Option (List Char) := do
  let (hour, s) ← fixed? 2 s
  let (minute, s) ← fixed? 2 (← char? ':' s)
  if 23 < hour ∨ 59 < minute then none else seconds? s

/-- Reads the offset of a time, if there is one. -/
def offset? : List Char → Option (List Char)
  | [] => some []
  | c :: s =>
    if c = 'Z' ∨ c = 'z' then some s
    else if c = '+' ∨ c = '-' then do
      let (hour, s) ← fixed? 2 s
      let (minute, s) ← fixed? 2 (← char? ':' s)
      if 23 < hour ∨ 59 < minute then none else some s
    else none

/-- Whether a text is a date, a time, or a date with a time. -/
def isMoment (s : List Char) : Bool :=
  match date? s with
  | some [] => true
  | some (c :: rest) =>
    (c == 'T' || c == 't' || c == ' ') && (time? rest).bind offset? == some []
  | none => time? s == some []

/-! ## At the front of a text -/

/-- Whether a character may stand in a value without quotes. -/
def isPart (c : Char) : Bool := c.isAlphanum || ['_', '-', '+', '.', ':'].contains c

/-- The characters of a value without quotes: a blank may stand between a date and a time. -/
def extent (s : List Char) : List Char × List Char :=
  let run := s.takeWhile isPart
  match date? run, s.dropWhile isPart with
  | some [], ' ' :: rest =>
    match rest with
    | c :: _ => if c.isDigit then (run ++ ' ' :: rest.takeWhile isPart, rest.dropWhile isPart)
      else (run, ' ' :: rest)
    | [] => (run, [' '])
  | _, rest => (run, rest)

/-- What a value without quotes stands for. -/
def classify (s : List Char) : Option Document :=
  if s = ['t', 'r', 'u', 'e'] then some (.bool true)
  else if s = ['f', 'a', 'l', 's', 'e'] then some (.bool false)
  else if isMoment s then some .moment
  else (integer? s).orElse fun _ => float? s

end Scalar

/-- Reads a value without quotes. -/
def scalar (s : List Char) : Option (Document × List Char) :=
  let (text, rest) := Scalar.extent s
  (Scalar.classify text).map (·, rest)

end PacketRelay.Toml
