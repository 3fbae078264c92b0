/-
  Numbers of few decimal digits are read exactly.

  A number with a fraction or an exponent is read in two steps, its digits as a whole number and
  then a product or quotient by a power of ten, each of which is rounded: `fromParts`.  The number
  is exact when the first step is and the power of ten is represented: `fromParts_exact`.  The
  shortest decimal of a number is then read as the number: `document_short`.
-/
import PacketRelay.Proofs.Json.Numeral
import Mathlib.Data.Nat.Digits.Defs

namespace PacketRelay.Json

open Binary64 (IsCanonical shortest readsBack)

/-! ## Powers of ten -/

theorem tenPower_exact {j : Nat} (hj : j ≤ 22) :
    ∃ n q, Binary64.tenPower j = .finite false n q ∧ n <<< q = Nat.pow 10 j * Binary64.one := by
  have hfive : Nat.pow 5 j < 1 <<< 53 :=
    Nat.lt_of_le_of_lt (Nat.pow_le_pow_right (by decide) hj) (by decide)
  have hunits : Nat.pow 10 j * Binary64.one = Nat.pow 5 j * 1 <<< (j + 1074) := by
    have hten : Nat.pow 10 j = Nat.pow 5 j * 1 <<< j := by
      rw [Nat.shiftLeft_eq, Nat.one_mul]
      exact Nat.mul_pow 5 2 j
    rw [hten, Nat.mul_assoc]
    exact congrArg (Nat.pow 5 j * ·) (Binary64.one_shiftLeft_mul j 1074)
  exact Binary64.round_exact hunits hfive (by omega)

section
variable {negative : Bool} {n m p : Nat} {k : Int}

/-- **Few digits with a small exponent are read as the nearest number.** -/
theorem fromParts_exact (hn : n < 1 <<< 53) (hk : k.natAbs ≤ 22)
    (h : Binary64.round false (n * Nat.pow 10 k.toNat) (Nat.pow 10 (-k).toNat) =
      .finite false m p) :
    fromParts negative n k = some (.finite negative m p) := by
  have hunits : n * Binary64.one = n * 1 <<< 1074 := rfl
  obtain ⟨n', q, hround, hmagnitude⟩ := Binary64.round_exact hunits hn (by decide)
  obtain ⟨n'', q', htenPower, hmagnitude'⟩ := tenPower_exact hk
  have hscaled : scaled 8 (.finite false n' q) k = some (.finite false m p) := by
    have hlimit : k.natAbs ≤ powerLimit := Nat.le_trans hk (by decide)
    rw [scaled, if_pos hlimit, htenPower]
    rcases Int.lt_or_le k 0 with hneg | hpos
    · have hzero : k.toNat = 0 ∧ (-k).toNat = k.natAbs := by omega
      have hquotient := Binary64.round_mul false n (Nat.pow 10 k.natAbs) Binary64.one_pos
      rw [hzero.1, hzero.2] at h
      rw [if_neg (by omega), Binary64.scaleDown, hmagnitude, hmagnitude', hquotient]
      exact congrArg some (by simpa using h)
    · have hzero : (-k).toNat = 0 ∧ k.toNat = k.natAbs := by omega
      have hproduct := Binary64.round_mul false (n * Nat.pow 10 k.natAbs) 1
        (Nat.mul_pos Binary64.one_pos Binary64.one_pos)
      rw [Nat.one_mul, ← Nat.mul_mul_mul_comm] at hproduct
      rw [hzero.1, hzero.2] at h
      rw [if_pos hpos, Binary64.scaleUp, hmagnitude, hmagnitude', hproduct]
      exact (congrArg (fun y : Binary64 => if y.isFinite then some y else none) h).trans rfl
  rw [fromParts, hround, hscaled]
  rfl

end

/-- Digits that fit 64 bits are all taken. -/
theorem ofDecimal_eq {whole fraction : List Char} {n : Nat} {e : Int} (negative : Bool)
    (hn : digitsValue (whole ++ fraction) = n) (hle : n ≤ countMax)
    (he : e.natAbs ≤ exponentLimit) :
    ofDecimal negative whole fraction e = fromParts negative n (e - fraction.length) := by
  rw [digitsValue, List.foldl_append] at hn
  have hfits : digitsValue whole ≤ n := hn ▸ le_foldl_digits fraction _
  have hwhole : leadingDigits 0 whole = (digitsValue whole, 0) :=
    leadingDigits_eq rfl (Nat.le_trans hfits hle)
  have hfraction : leadingDigits (digitsValue whole) fraction = (n, 0) := leadingDigits_eq hn hle
  have hshift : ((0 : Nat) : Int) - ((fraction.length - 0 : Nat) : Int) + e =
      e - fraction.length := by omega
  simp only [ofDecimal, hwhole, hfraction, withExponent, if_pos he, hshift]

/-! ## Shortest decimals -/

theorem digitsValue_append_zeros (ds : List Char) (k : Nat) :
    digitsValue (ds ++ List.replicate k '0') = digitsValue ds * Nat.pow 10 k := by
  induction k with
  | zero => simp
  | succ k ih =>
    have hvalue := digitsValue_snoc (ds ++ List.replicate k '0') (d := 0) (by decide)
    rw [List.replicate_succ', ← List.append_assoc]
    refine hvalue.trans ?_
    rw [ih]
    exact Nat.mul_assoc _ _ 10

theorem digitsValue_zeros_append (k : Nat) (ds : List Char) :
    digitsValue (List.replicate k '0' ++ ds) = digitsValue ds := by
  have hzeros : digitsValue (List.replicate k '0') = 0 := by
    rw [← List.nil_append (List.replicate k '0'), digitsValue_append_zeros]
    exact Nat.zero_mul _
  rw [digitsValue, List.foldl_append]
  exact congrArg (ds.foldl _) hzeros

theorem exponentValue_digits (e : Int) :
    Numeral.exponentValue (decide (e < 0), Decimal.digits e.natAbs) = e := by
  unfold Numeral.exponentValue
  rw [digitsValue_digits]
  split
  · next h =>
    have hneg : e < 0 := of_decide_eq_true h
    omega
  · next h =>
    have hpos : ¬ e < 0 := fun hneg => h (decide_eq_true hneg)
    omega

/-- The digits of a number with a point, and how many of them follow it. -/
theorem pointed_parts (negative : Bool) (ds : List Char) (places : Nat)
    (exponent : Option (Bool × List Char)) :
    ∃ whole fraction, Numeral.pointed negative ds places exponent =
      ⟨negative, whole, some fraction, exponent⟩ ∧ fraction.length = places ∧
        digitsValue (whole ++ fraction) = digitsValue ds := by
  unfold Numeral.pointed
  split
  · refine ⟨_, _, rfl, ?_, ?_⟩
    · rw [List.length_drop]
      omega
    · rw [List.take_append_drop]
  · refine ⟨_, _, rfl, ?_, ?_⟩
    · rw [List.length_append, List.length_replicate]
      omega
    · exact digitsValue_zeros_append (places - ds.length + 1) ds

/-- What a number with a point is read as, by its digits. -/
theorem document_pointed (negative : Bool) {n : Nat} (places : Nat)
    {exponent : Option (Bool × List Char)} {e : Int} (hn : n ≤ countMax)
    (hexponent : (exponent.map Numeral.exponentValue).getD 0 = e)
    (he : e.natAbs ≤ exponentLimit) :
    (Numeral.pointed negative (Decimal.digits n) places exponent).document =
      (fromParts negative n (e - places)).elim .unreadable .float := by
  obtain ⟨whole, fraction, hpointed, hplaces, hvalue⟩ :=
    pointed_parts negative (Decimal.digits n) places exponent
  rw [digitsValue_digits] at hvalue
  have hread := ofDecimal_eq negative hvalue hn he
  rw [hplaces] at hread
  rw [hpointed, Numeral.document_decimal (fun hnone => by cases hnone)]
  dsimp only [Option.getD_some]
  rw [hexponent, hread]

/-- What a whole number is read as when it is written with a zero after the point. -/
theorem document_whole (negative : Bool) {n k : Nat} (hn : n * Nat.pow 10 (k + 1) ≤ countMax) :
    Numeral.document ⟨negative, Decimal.digits n ++ List.replicate k '0', some ['0'], none⟩ =
      (fromParts negative (n * Nat.pow 10 (k + 1)) (-1)).elim .unreadable .float := by
  have hvalue : digitsValue ((Decimal.digits n ++ List.replicate k '0') ++ ['0']) =
      n * Nat.pow 10 (k + 1) := by
    have happend := digitsValue_append_zeros (Decimal.digits n) (k + 1)
    rwa [List.replicate_succ', ← List.append_assoc, digitsValue_digits] at happend
  rw [Numeral.document_decimal (fun hnone => by cases hnone)]
  exact congrArg (Option.elim · _ _) (ofDecimal_eq negative hvalue hn (e := 0) (by decide))

/-- What a digit with an exponent is read as. -/
theorem document_digits (negative : Bool) {n : Nat} {e : Int} (hn : n ≤ countMax)
    (he : e.natAbs ≤ exponentLimit) :
    Numeral.document ⟨negative, Decimal.digits n, none,
      some (decide (e < 0), Decimal.digits e.natAbs)⟩ =
        (fromParts negative n e).elim .unreadable .float := by
  have hvalue : digitsValue (Decimal.digits n ++ []) = n := by
    rw [List.append_nil, digitsValue_digits]
  have hread := ofDecimal_eq negative hvalue hn he
  rw [List.length_nil, Int.natCast_zero, Int.sub_zero] at hread
  rw [Numeral.document_decimal (fun _ hnone => by cases hnone)]
  dsimp only [Option.map_some, Option.getD_some, Option.getD_none]
  rw [exponentValue_digits, hread]

/-- A number whose shortest decimal has few digits, also when it is written with the digit after
    its point. -/
structure IsShort (m p : Nat) : Prop where
  canonical : IsCanonical m p
  zero : (shortest m p).1 = 0 → m = 0
  digits : (shortest m p).1 * Nat.pow 10 ((shortest m p).2 + 1).toNat < 1 <<< 53
  exponent : (shortest m p).2.natAbs ≤ 22

section
variable {m p : Nat}

theorem fromParts_shortest (negative : Bool) (h : IsShort m p) :
    fromParts negative (shortest m p).1 (shortest m p).2 = some (.finite negative m p) := by
  have hreads := Binary64.readsBack_shortest h.zero
  have hn : (shortest m p).1 < 1 <<< 53 :=
    Nat.lt_of_le_of_lt (Nat.le_mul_of_pos_right _ (Nat.pow_pos (by decide))) h.digits
  exact fromParts_exact hn h.exponent (Binary64.round_of_readsBack false h.canonical hreads)

/-- With a zero after the point. -/
theorem fromParts_whole (negative : Bool) (h : IsShort m p) (hk : 0 ≤ (shortest m p).2) :
    fromParts negative ((shortest m p).1 * Nat.pow 10 ((shortest m p).2.toNat + 1)) (-1) =
      some (.finite negative m p) := by
  have hreads := Binary64.readsBack_shortest h.zero
  have hn := h.digits
  have hexponent : ((shortest m p).2 + 1).toNat = (shortest m p).2.toNat + 1 := by omega
  have hback : -1 + (((shortest m p).2.toNat + 1 : Nat) : Int) = (shortest m p).2 := by omega
  rw [hexponent] at hn
  rw [← hback, ← Binary64.readsBack_tenPower] at hreads
  exact fromParts_exact hn (by decide) (Binary64.round_of_readsBack false h.canonical hreads)

/-- **A number of few digits is read as it was written.** -/
theorem document_short (negative : Bool) (h : IsShort m p) :
    (floatNumeral negative m p).document = .float (.finite negative m p) := by
  have hn : (shortest m p).1 < 1 <<< 53 :=
    Nat.lt_of_le_of_lt (Nat.le_mul_of_pos_right _ (Nat.pow_pos (by decide))) h.digits
  have hfit : ∀ {x}, x < 1 <<< 53 → x ≤ countMax :=
    fun hx => Nat.le_of_lt (Nat.lt_trans hx (by decide))
  have hlength : (Decimal.digits (shortest m p).1).length ≤ 16 :=
    Nat.toDigits_length 10 _ 16 (by decide) (Nat.lt_trans hn (by decide))
  have hwhole := fromParts_whole negative h
  have hparts := fromParts_shortest negative h
  have hdigits := h.digits
  have hexponent := h.exponent
  have hlimit : exponentLimit = 2147483647 := rfl
  unfold floatNumeral
  generalize shortest m p = decimal at *
  obtain ⟨n, k⟩ := decimal
  dsimp only at *
  -- one case for each form in which a number is written
  split
  · -- a whole number, with a zero behind the point
    next hk =>
    have hsucc : (k + 1).toNat = k.toNat + 1 := by omega
    rw [hsucc] at hdigits
    rw [document_whole negative (hfit hdigits), hwhole hk.1]
    rfl
  next hpoint =>
  split
  · -- a point among the digits or before them
    next htop =>
    have hback : (0 : Int) - ((-k).toNat : Nat) = k := by omega
    rw [document_pointed negative _ (hfit hn) (e := 0) rfl (by decide), hback, hparts]
    rfl
  generalize he : ((Decimal.digits n).length : Int) + k - 1 = e at *
  have hlarge : e.natAbs ≤ exponentLimit := by omega
  split
  · -- one digit with an exponent
    next hone =>
    obtain rfl : e = k := by omega
    rw [document_digits negative (hfit hn) hlarge, hparts]
    rfl
  · -- several digits with an exponent
    next hmore =>
    have hpos : 0 < (Decimal.digits n).length :=
      List.length_pos_of_ne_nil (Decimal.digits_ne_nil n)
    have hback : e - ((Decimal.digits n).length - 1 : Nat) = k := by omega
    have hvalue : ((some (decide (e < 0), Decimal.digits e.natAbs)).map
        Numeral.exponentValue).getD 0 = e := exponentValue_digits e
    rw [document_pointed negative _ (hfit hn) hvalue hlarge, hback, hparts]
    rfl

/-- The number 50 is short. -/
example : IsShort 7036874417766400 1027 := by
  have hshortest : shortest 7036874417766400 1027 = (5, 1) := by decide +kernel
  refine ⟨⟨by decide, by decide, by decide⟩, ?_, ?_, ?_⟩ <;> rw [hshortest] <;> decide

/-- A finite number whose shortest decimal has few digits. -/
def IsShortNumber (x : Binary64) : Prop := ∃ negative m p, x = .finite negative m p ∧ IsShort m p

end

end PacketRelay.Json
