/-
  Decimal notation of natural numbers.

  * `Decimal.text` writes a number;
  * `Decimal.read` reads digits after an optional plus sign and refuses numbers above a limit.
    The characters are taken one by one, so the first one that is no digit or that carries the
    number over the limit decides the error.
-/
namespace PacketRelay.Decimal

/-- The digits of a number. -/
def digits (n : Nat) : List Char := Nat.toDigits 10 n

/-- A number in decimal notation. -/
def text (n : Nat) : String := String.ofList (digits n)

/-- Why a text is no number. -/
inductive Error where
  | empty
  | invalidDigit
  | tooLarge
deriving Repr, DecidableEq

/-- The wording of an error. -/
def Error.message : Error → String
  | .empty => "cannot parse integer from empty string"
  | .invalidDigit => "invalid digit found in string"
  | .tooLarge => "number too large to fit in target type"

/-- The value of a decimal digit. -/
def digitValue? (c : Char) : Option Nat :=
  if '0' ≤ c ∧ c ≤ '9' then some (c.toNat - 48) else none

/-- Reads further digits after a number. -/
def readDigits (limit : Nat) : Nat → List Char → Except Error Nat
  | n, [] => .ok n
  | n, c :: rest => match digitValue? c with
    | none => .error .invalidDigit
    | some d => if n * 10 + d ≤ limit then readDigits limit (n * 10 + d) rest else .error .tooLarge

/-- Reads a number that is at most `limit`. -/
def readChars (limit : Nat) : List Char → Except Error Nat
  | [] => .error .empty
  | ['+'] => .error .invalidDigit
  | '+' :: rest => readDigits limit 0 rest
  | s => readDigits limit 0 s

/-- `readChars` on strings. -/
def read (limit : Nat) (s : String) : Except Error Nat := readChars limit s.toList

end PacketRelay.Decimal
