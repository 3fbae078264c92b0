/-
  Texts beyond ASCII written in ASCII.

  A code starts with the ASCII characters of the text, followed by a dash if there are any.  Then
  come numbers: each says how far to go on, in steps through all places and all characters, to the
  next character that is put into the text.  A number has its lowest digit first, and how large a
  digit has to be to go on is adapted to the numbers that came before.

  `Punycode.decode?` reads the text that a code writes.
-/
namespace PacketRelay.HostName.Punycode

/-- The greatest number that is worked with. -/
def limit : Nat := (1 <<< 32) - 1

/-- The greatest length of a code. -/
def maxLength : Nat := 2000

/-- The value of a digit in base 36. -/
def digit? (c : Char) : Option Nat :=
  if 'a' ≤ c ∧ c ≤ 'z' then some (c.toNat - 'a'.toNat)
  else if 'A' ≤ c ∧ c ≤ 'Z' then some (c.toNat - 'A'.toNat)
  else if c.isDigit then some (c.toNat - '0'.toNat + 26)
  else none

/-- The digits below it end a number; `k` grows by 36 from digit to digit. -/
def threshold (k bias : Nat) : Nat := if k ≤ bias then 1 else min (k - bias) 26

/-- Divides a number until it is small, and counts 36 for each division. -/
def reduced : Nat → Nat → Nat × Nat
  | 0, delta => (0, delta)
  | fuel + 1, delta =>
    if 455 < delta then
      let (k, delta) := reduced fuel (delta / 35)
      (k + 36, delta)
    else (0, delta)

/-- The bias after a number; `count` characters have been read. -/
def adapted (delta count : Nat) (isFirst : Bool) : Nat :=
  let delta := if isFirst then delta / 700 else delta / 2
  let (k, delta) := reduced 8 (delta + delta / count)
  k + 36 * delta / (delta + 38)

/-- What has been read of a code. -/
structure State where
  text : List Char
  /-- The number of the last character that was put into the text. -/
  code : Nat
  /-- The steps that were made, those of the number being read included. -/
  index : Nat
  /-- The steps before the number being read. -/
  start : Nat
  bias : Nat
  /-- What the next digit counts. -/
  weight : Nat
  k : Nat

/-- Puts the character that a number says into the text. -/
def State.insert? (s : State) : Option State :=
  let count := s.text.length + 1
  let code := s.code + s.index / count
  let place := s.index % count
  if code.isValidChar then
    some ⟨s.text.insertIdx place (Char.ofNat code), code, place + 1, place + 1,
      adapted (s.index - s.start) count (s.start == 0), 1, 36⟩
  else none

/-- Reads numbers up to the end. -/
def numbers : List Char → State → Option (List Char)
  | [], s => if s.k = 36 then some s.text else none
  | c :: rest, s => do
    let d ← digit? c
    let s := { s with index := s.index + d * s.weight }
    if limit < s.index then none
    else
      let t := threshold s.k s.bias
      if d < t then numbers rest (← s.insert?)
      else if limit < s.weight * (36 - t) then none
      else numbers rest { s with weight := s.weight * (36 - t), k := s.k + 36 }

/-- The ASCII characters in front of the last dash, and what follows it; a dash at the very front
    does not count. -/
def split (s : List Char) : List Char × List Char :=
  let last := (s.reverse.takeWhile (· != '-')).reverse
  let front := s.take (s.length - last.length - 1)
  if front.isEmpty then ([], s) else (front, last)

/-- The text that a code writes. -/
def decode? (s : List Char) : Option (List Char) :=
  let (front, rest) := split s
  if s.length ≤ maxLength ∧ front.all (·.toNat < 0x80) then
    numbers rest ⟨front, 0x80, 0, 0, 72, 1, 36⟩
  else none

end PacketRelay.HostName.Punycode
