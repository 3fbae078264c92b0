/-
  Numbers in binary notation with 53 significant digits, on exact arithmetic.

  A finite number is `± significand * 2 ^ scale / 2 ^ 1074`.

  * `Binary64.round` takes a fraction to the nearest number, a tie to the even significand;
    products, quotients and the values of decimals are rounded fractions;
  * `Binary64.shortest` gives the fewest decimal digits that round back to a number, of these the
    nearest;
  * `Binary64.plain` writes them without an exponent, `Binary64.scientific` with one where the
    number is very large or small.
-/
import PacketRelay.Decimal

namespace PacketRelay

/-- A number, an infinity, or no number. -/
inductive Binary64 where
  | nan
  | infinite (negative : Bool)
  | finite (negative : Bool) (significand scale : Nat)
deriving Repr, DecidableEq

namespace Binary64

/-- The unit of all numbers is `1 / one`. -/
def one : Nat := 1 <<< 1074

/-- Zero, with a sign. -/
def zero (negative : Bool) : Binary64 := finite negative 0 0

/-- The magnitude in units. -/
def magnitude : Binary64 → Nat
  | finite _ m p => m <<< p
  | _ => 0

/-- Whether the number is neither infinite nor undefined. -/
def isFinite : Binary64 → Bool
  | finite .. => true
  | _ => false

/-! ## Rounding -/

/-- The quotient rounded to the nearest natural number, a tie to the even one. -/
def roundDiv (n d : Nat) : Nat :=
  let q := n / d
  let r := n % d
  if d < 2 * r ∨ (2 * r = d ∧ q % 2 = 1) then q + 1 else q

/-- The number nearest to a fraction with positive denominator. -/
def round (negative : Bool) (numerator denominator : Nat) : Binary64 :=
  let units := numerator * one
  let scale := (units / denominator).log2 - 52
  let m := roundDiv units (denominator <<< scale)
  let (m, scale) := if m = 1 <<< 53 then (1 <<< 52, scale + 1) else (m, scale)
  if 2045 < scale then infinite negative else finite negative m scale

/-- The number nearest to an integer. -/
def ofInt (n : Int) : Binary64 := round (n < 0) n.natAbs 1

/-- The number nearest to `digits * 10 ^ exponent`.  Exponents far out of range are not worked
    out. -/
def ofDecimal (negative : Bool) (digits : Nat) (exponent : Int) : Binary64 :=
  let size : Int := exponent + (Decimal.digits digits).length
  if digits = 0 ∨ size < -400 then zero negative
  else if 400 < size then infinite negative
  else if 0 ≤ exponent then round negative (digits * Nat.pow 10 exponent.toNat) 1
  else round negative digits (Nat.pow 10 (-exponent).toNat)

/-- The product with a positive number. -/
def scaleUp : Binary64 → Binary64 → Binary64
  | finite s m p, finite _ n q => round s ((m <<< p) * (n <<< q)) (one * one)
  | x, _ => x

/-- The quotient by a positive number. -/
def scaleDown : Binary64 → Binary64 → Binary64
  | finite s m p, finite _ n q => round s (m <<< p) (n <<< q)
  | x, _ => x

/-- The number nearest to a power of ten. -/
def tenPower (k : Nat) : Binary64 := round false (Nat.pow 10 k) 1

/-- Whether the number is at least zero and at most `n`. -/
def isWithin (n : Nat) : Binary64 → Bool
  | finite negative m p => (!negative || m == 0) && m <<< p ≤ n * one
  | _ => false

/-! ## The shortest decimal -/

/-- The fractions that round to a positive number lie between these two, which are given in
    quarters of a unit. -/
def bounds (m p : Nat) : Nat × Nat :=
  let below := if m = 1 <<< 52 ∧ 0 < p then 1 else 2
  ((4 * m - below) <<< p, (4 * m + 2) <<< p)

/-- Whether `n * 10 ^ k` rounds to a positive number; the bounds themselves do so when the
    significand is even. -/
def readsBack (m p n : Nat) (k : Int) : Bool :=
  let (low, high) := bounds m p
  let value := 4 * n * one * Nat.pow 10 k.toNat
  let low := low * Nat.pow 10 (-k).toNat
  let high := high * Nat.pow 10 (-k).toNat
  if m % 2 = 0 then low ≤ value && value ≤ high else low < value && value < high

/-- The exponent of the leading decimal digit of a positive number given in units. -/
def leadingExponent (units : Nat) : Int :=
  ((Decimal.digits (units * Nat.pow 10 324 / one)).length : Int) - 325

/-- The decimal of `n` digits next to a positive number that rounds back to it, if there is one. -/
def candidate? (m p n : Nat) : Option (Nat × Int) :=
  let units := m <<< p
  let k := leadingExponent units - n + 1
  let numerator := units * Nat.pow 10 (-k).toNat
  let denominator := one * Nat.pow 10 k.toNat
  let c := numerator / denominator
  let r := numerator % denominator
  let upper := denominator < 2 * r ∨ (2 * r = denominator ∧ c % 2 = 1)
  match readsBack m p c k, readsBack m p (c + 1) k with
  | true, true => some (if upper then c + 1 else c, k)
  | true, false => some (c, k)
  | false, true => some (c + 1, k)
  | false, false => none

/-- A decimal without zeros at the end; the first argument bounds their number. -/
def stripped : Nat → Nat → Int → Nat × Int
  | 0, n, k => (n, k)
  | fuel + 1, n, k =>
    if n ≠ 0 ∧ n % 10 = 0 then stripped fuel (n / 10) (k + 1) else (n, k)

/-- The fewest digits that round back to a finite number, with their exponent of ten. -/
def shortest (m p : Nat) : Nat × Int :=
  if m = 0 then (0, 0)
  else match (List.range' 1 17).findSome? (candidate? m p) with
    | some (n, k) => stripped 18 n k
    | none => (0, 0)

/-! ## Texts -/

/-- The sign of a text. -/
def sign (negative : Bool) : List Char := if negative then ['-'] else []

/-- Digits with a point before the last `places` of them. -/
def pointed (ds : List Char) (places : Nat) : List Char :=
  if places < ds.length then
    ds.take (ds.length - places) ++ '.' :: ds.drop (ds.length - places)
  else '0' :: '.' :: List.replicate (places - ds.length) '0' ++ ds

/-- The shortest digits without an exponent; whole numbers have no point. -/
def plainChars : Binary64 → List Char
  | nan => ['N', 'a', 'N']
  | infinite s => sign s ++ ['i', 'n', 'f']
  | finite s m p =>
    let (n, k) := shortest m p
    let ds := Decimal.digits n
    sign s ++ if 0 ≤ k then ds ++ (if n = 0 then [] else List.replicate k.toNat '0')
      else pointed ds (-k).toNat

/-- `plainChars` as a string. -/
def plain (x : Binary64) : String := String.ofList (plainChars x)

/-- The shortest digits, `.0` after whole numbers, and an exponent with its sign from `10 ^ 16` on
    and below `10 ^ -5`. -/
def scientificChars : Binary64 → List Char
  | nan | infinite _ => ['n', 'u', 'l', 'l']
  | finite s m p =>
    let (n, k) := shortest m p
    let ds := Decimal.digits n
    let top := (ds.length : Int) + k
    sign s ++
      if 0 ≤ k ∧ top ≤ 16 then ds ++ List.replicate k.toNat '0' ++ ['.', '0']
      else if -5 < top ∧ top ≤ 16 then pointed ds (-k).toNat
      else
        let mantissa := if ds.length = 1 then ds else pointed ds (ds.length - 1)
        let e := top - 1
        mantissa ++ 'e' :: (if e < 0 then '-' else '+') :: Decimal.digits e.natAbs

end Binary64

end PacketRelay
