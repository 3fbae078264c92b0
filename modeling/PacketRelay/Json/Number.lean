/-
  Numbers as JSON writes them.

  A number without fraction and exponent is an integer.  Any other number is read as up to 64 bits
  of leading digits, which are then multiplied or divided by a power of ten; a number above all
  bounds is unreadable.
-/
import PacketRelay.Document
import PacketRelay.Fee

namespace PacketRelay.Json

/-- The leading digits of a number as far as they fit 64 bits, after those in `n`, and how many
    digits are left. -/
def leadingDigits : Nat → List Char → Nat × Nat
  | n, [] => (n, 0)
  | n, c :: rest =>
    let next := n * 10 + (c.toNat - 48)
    if next ≤ countMax then leadingDigits next rest else (n, rest.length + 1)

/-- The greatest exponent for which there is a power of ten. -/
def powerLimit : Nat := 308

/-- `x * 10 ^ exponent`, in steps of `powerLimit`; none if the result is above all bounds. -/
def scaled : Nat → Binary64 → Int → Option Binary64
  | 0, x, _ => some x
  | fuel + 1, x, exponent =>
    if exponent.natAbs ≤ powerLimit then
      if 0 ≤ exponent then
        let y := x.scaleUp (.tenPower exponent.natAbs)
        if y.isFinite then some y else none
      else some (x.scaleDown (.tenPower exponent.natAbs))
    else if x.magnitude = 0 then some x
    else if 0 ≤ exponent then none
    else scaled fuel (x.scaleDown (.tenPower powerLimit)) (exponent + powerLimit)

/-- The number with leading digits `digits` and a power of ten. -/
def fromParts (negative : Bool) (digits : Nat) (exponent : Int) : Option Binary64 :=
  (scaled 8 (.round false digits 1) exponent).map fun
    | .finite _ m p => .finite negative m p
    | x => x

/-- The greatest exponent that is worked out. -/
def exponentLimit : Nat := (1 <<< 31) - 1

/-- A number with an explicit exponent after what the digits call for. -/
def withExponent (negative : Bool) (digits : Nat) (shift : Int) (exponent : Int) :
    Option Binary64 :=
  if exponent.natAbs ≤ exponentLimit then fromParts negative digits (shift + exponent)
  else if digits ≠ 0 ∧ 0 < exponent then none
  else some (.zero negative)

/-- The number nearest to an integer. -/
def ofInteger (n : Int) : Option Binary64 :=
  let (digits, left) := leadingDigits 0 (Decimal.digits n.natAbs)
  fromParts (n < 0) digits left

/-- A number with a fraction or an exponent. -/
def ofDecimal (negative : Bool) (whole fraction : List Char) (exponent : Int) : Option Binary64 :=
  let (digits, left) := leadingDigits 0 whole
  let (digits', left') := leadingDigits digits fraction
  withExponent negative digits' ((left : Int) - ((fraction.length - left' : Nat) : Int)) exponent

end PacketRelay.Json
