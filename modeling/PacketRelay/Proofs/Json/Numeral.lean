/-
  Numbers that have been written as JSON are read.

  * `Numeral` is a number by its parts, `chars` writes it and `document` is what it is read as:
    `numberTail_chars`;
  * `integerNumeral` and `floatNumeral` are the numerals of integers and of finite numbers.
-/
import PacketRelay.Json.Parser
import PacketRelay.Json.Printer
import PacketRelay.Proofs.Binary64
import PacketRelay.Proofs.Text.Numeral
import Mathlib.Data.List.TakeDrop

namespace PacketRelay.Json

/-! ## Digits -/

theorem isDigit_digitChar {d : Nat} (h : d < 10) : d.digitChar.isDigit = true := by
  have : ∀ d < 10, d.digitChar.isDigit = true := by decide
  exact this d h

theorem isDigit_of_mem_digits {n : Nat} {c : Char} (h : c ∈ Decimal.digits n) :
    c.isDigit = true := by
  obtain ⟨d, hd, rfl⟩ := Decimal.mem_digits h
  exact isDigit_digitChar hd

theorem digitsValue_snoc (ds : List Char) {d : Nat} (h : d < 10) :
    digitsValue (ds ++ [d.digitChar]) = digitsValue ds * 10 + d := by
  have hvalue : ∀ d < 10, d.digitChar.toNat - 48 = d := by decide
  rw [digitsValue, List.foldl_append, List.foldl_cons, List.foldl_nil, hvalue d h]
  rfl

theorem digitsValue_digits (n : Nat) : digitsValue (Decimal.digits n) = n := by
  induction n using Nat.strongRecOn with
  | _ n ih =>
    rcases Nat.lt_or_ge n 10 with hn | hn
    · rw [Decimal.digits_of_lt hn, ← List.nil_append [n.digitChar], digitsValue_snoc [] hn]
      exact Nat.zero_add n
    · rw [Decimal.digits_of_le hn, digitsValue_snoc _ (Nat.mod_lt n (by decide)), ih _ (by omega)]
      omega

/-- A number other than zero is written without leading zeros. -/
theorem head_digits_ne_zero {n : Nat} (h : n ≠ 0) : (Decimal.digits n).head? ≠ some '0' := by
  induction n using Nat.strongRecOn with
  | _ n ih =>
    rcases Nat.lt_or_ge n 10 with hn | hn
    · have : ∀ d < 10, d ≠ 0 → d.digitChar ≠ '0' := by decide
      rw [Decimal.digits_of_lt hn]
      simpa using this n hn h
    · rw [Decimal.digits_of_le hn, List.head?_append_of_ne_nil _ (Decimal.digits_ne_nil _)]
      exact ih (n / 10) (by omega) (by omega)

/-- The digits of a text end where what follows is none. -/
theorem digits_append {ds rest : List Char} (h : ∀ c ∈ ds, c.isDigit = true)
    (hrest : ∀ c ∈ rest.head?, c.isDigit = false) : digits (ds ++ rest) = (ds, rest) := by
  obtain ⟨htake, hdrop⟩ := Text.span_run h hrest
  rw [digits, List.span_eq_takeWhile_dropWhile, htake, hdrop]

/-! ## Numerals -/

/-- A number as it is written. -/
structure Numeral where
  negative : Bool
  whole : List Char
  fraction : Option (List Char)
  /-- Whether the exponent is negative, and its digits. -/
  exponent : Option (Bool × List Char)

namespace Numeral

/-- The dot and the digits after it, if there are any. -/
def fractionChars : Option (List Char) → List Char
  | some ds => '.' :: ds
  | none => []

/-- The mark of the exponent, its sign and its digits, if there is one. -/
def exponentChars : Option (Bool × List Char) → List Char
  | some (negative, ds) => 'e' :: (if negative then '-' else '+') :: ds
  | none => []

/-- A number without its sign. -/
def tail (n : Numeral) : List Char :=
  n.whole ++ fractionChars n.fraction ++ exponentChars n.exponent

/-- A number as it is written. -/
def chars (n : Numeral) : List Char := (if n.negative then ['-'] else []) ++ n.tail

/-- The number that the exponent writes. -/
def exponentValue (e : Bool × List Char) : Int :=
  if e.1 then -(digitsValue e.2 : Int) else digitsValue e.2

/-- What a number is read as. -/
def document (n : Numeral) : Document :=
  numberOf n.negative n.whole n.fraction (n.exponent.map exponentValue)

/-- Digits, at least one. -/
structure IsDigits (ds : List Char) : Prop where
  digit : ∀ c ∈ ds, c.isDigit = true
  ne_nil : ds ≠ []

/-- Digits stand where they have to, and there is no leading zero. -/
structure WellFormed (n : Numeral) : Prop where
  whole : IsDigits n.whole
  leading : n.whole.head? = some '0' → n.whole.length ≤ 1
  fraction : ∀ ds ∈ n.fraction, IsDigits ds
  exponent : ∀ e ∈ n.exponent, IsDigits e.2

end Numeral

/-- What follows ends a value. -/
def Ends (rest : List Char) : Prop := ∀ c ∈ rest.head?, c = ',' ∨ c = ']' ∨ c = '\x7d'

section
variable {rest : List Char}

theorem Ends.not_digit (h : Ends rest) : ∀ c ∈ rest.head?, c.isDigit = false := by
  intro c hc
  rcases h c hc with rfl | rfl | rfl <;> rfl

theorem exponentPart_none (h : Ends rest) : exponentPart rest = some (none, rest) := by
  cases rest with
  | nil => rfl
  | cons c rest => rcases h c rfl with rfl | rfl | rfl <;> rfl

theorem exponentPart_some {e : Bool × List Char} (he : Numeral.IsDigits e.2) (h : Ends rest) :
    exponentPart (Numeral.exponentChars (some e) ++ rest) =
      some (some (Numeral.exponentValue e), rest) := by
  obtain ⟨negative, ds⟩ := e
  have hdigits : digits (ds ++ rest) = (ds, rest) := digits_append he.digit h.not_digit
  have hne : ds ≠ [] := he.ne_nil
  cases ds with
  | nil => exact absurd rfl hne
  | cons c ds =>
    rw [List.cons_append] at hdigits
    cases negative <;>
      simp [Numeral.exponentChars, exponentPart, hdigits, Numeral.exponentValue]

/-- What follows the digits of a fraction. -/
theorem not_digit_exponentChars (e : Option (Bool × List Char)) (h : Ends rest) :
    ∀ c ∈ (Numeral.exponentChars e ++ rest).head?, c.isDigit = false := by
  cases e with
  | none => exact h.not_digit
  | some e =>
    intro c hc
    obtain rfl : 'e' = c := Option.some.inj hc
    rfl

theorem fractionPart_none (e : Option (Bool × List Char)) (h : Ends rest) :
    fractionPart (Numeral.exponentChars e ++ rest) =
      some (none, Numeral.exponentChars e ++ rest) := by
  cases e with
  | none =>
    cases rest with
    | nil => rfl
    | cons c rest => rcases h c rfl with rfl | rfl | rfl <;> rfl
  | some e => rfl

theorem fractionPart_some {ds s : List Char} (hds : Numeral.IsDigits ds)
    (h : ∀ c ∈ s.head?, c.isDigit = false) :
    fractionPart ('.' :: ds ++ s) = some (some ds, s) := by
  have hdigits := digits_append hds.digit h
  have hne := hds.ne_nil
  cases ds with
  | nil => exact absurd rfl hne
  | cons c ds =>
    rw [List.cons_append] at hdigits
    simp [fractionPart, hdigits]

/-- **A number that is written is read.** -/
theorem numberTail_chars {n : Numeral} (hn : n.WellFormed) (h : Ends rest) :
    numberTail n.negative (n.tail ++ rest) = some (n.document, rest) := by
  obtain ⟨negative, whole, fraction, exponent⟩ := n
  obtain ⟨hwhole, hleading, hfraction, hexponent⟩ := hn
  have hstop := not_digit_exponentChars exponent h
  have hwhole_stop : ∀ c ∈ (Numeral.fractionChars fraction ++
      (Numeral.exponentChars exponent ++ rest)).head?, c.isDigit = false := by
    cases fraction with
    | none => exact hstop
    | some ds =>
      intro c hc
      obtain rfl : '.' = c := Option.some.inj hc
      rfl
  have hdigits := digits_append hwhole.digit hwhole_stop
  have hnot : ¬ (whole.head? = some '0' ∧ 1 < whole.length) :=
    fun hzero => Nat.not_lt.2 (hleading hzero.1) hzero.2
  have hfractionPart : fractionPart (Numeral.fractionChars fraction ++
      (Numeral.exponentChars exponent ++ rest)) =
        some (fraction, Numeral.exponentChars exponent ++ rest) := by
    cases fraction with
    | none => exact fractionPart_none exponent h
    | some ds => exact fractionPart_some (hfraction ds rfl) hstop
  have hexponentPart : exponentPart (Numeral.exponentChars exponent ++ rest) =
      some (exponent.map Numeral.exponentValue, rest) := by
    cases exponent with
    | none => exact exponentPart_none h
    | some e => exact exponentPart_some (hexponent e rfl) h
  simp only [Numeral.tail, List.append_assoc, numberTail, hdigits]
  cases whole with
  | nil => exact absurd rfl hwhole.ne_nil
  | cons c whole =>
    simp only [if_neg hnot, hfractionPart, Option.bind_eq_bind, Option.bind_some, hexponentPart]
    rfl

end

/-! ## Integers -/

theorem isDigits_digits (n : Nat) : Numeral.IsDigits (Decimal.digits n) :=
  ⟨fun _ => isDigit_of_mem_digits, Decimal.digits_ne_nil n⟩

theorem eq_zero_of_head {n : Nat} (h : (Decimal.digits n).head? = some '0') : n = 0 := by
  by_contra hn
  exact head_digits_ne_zero hn h

/-- A whole number in decimal notation. -/
def integerNumeral (n : Int) : Numeral := ⟨n < 0, Decimal.digits n.natAbs, none, none⟩

theorem chars_integerNumeral (n : Int) : (integerNumeral n).chars = integerChars n := by
  simp [integerNumeral, Numeral.chars, Numeral.tail, Numeral.fractionChars, Numeral.exponentChars,
    integerChars]

theorem integerChars_injective {n m : Int} (h : integerChars n = integerChars m) : n = m := by
  have hdigits : ∀ {k : Nat} {ds : List Char}, Decimal.digits k ≠ '-' :: ds := by
    intro k ds heq
    have hdigit := isDigit_of_mem_digits (n := k) (c := '-') (by rw [heq]; exact List.mem_cons_self)
    cases hdigit
  have habs : ∀ {k l : Nat}, Decimal.digits k = Decimal.digits l → k = l := by
    intro k l heq
    rw [← digitsValue_digits k, heq, digitsValue_digits]
  unfold integerChars at h
  split at h
  · split at h
    · have hsame := habs (List.append_cancel_left h)
      omega
    · exact absurd h.symm hdigits
  · split at h
    · exact absurd h hdigits
    · have hsame := habs (List.append_cancel_left h)
      omega

theorem wellFormed_integerNumeral (n : Int) : (integerNumeral n).WellFormed where
  whole := isDigits_digits n.natAbs
  leading h := by
    simp only [integerNumeral, eq_zero_of_head h]
    decide
  fraction _ h := by cases h
  exponent _ h := by cases h

theorem document_integerNumeral (n : Int) : (integerNumeral n).document =
    if (ofInteger n).isSome then .integer n else .unreadable := by
  have hvalue : (if decide (n < 0) = true then -(n.natAbs : Int) else n.natAbs) = n := by
    by_cases hn : n < 0
    · rw [if_pos (decide_eq_true hn)]
      omega
    · rw [if_neg (by simpa using hn)]
      omega
  have hnot : ¬ (decide (n < 0) = true ∧ n = 0) := by
    rintro ⟨hn, rfl⟩
    cases hn
  simp only [integerNumeral, Numeral.document, Option.map_none, numberOf, digitsValue_digits,
    hvalue, if_neg hnot]

theorem le_foldl_digits (ds : List Char) (n : Nat) :
    n ≤ ds.foldl (fun n c => n * 10 + (c.toNat - 48)) n := by
  induction ds generalizing n with
  | nil => exact Nat.le_refl n
  | cons c ds ih =>
    rw [List.foldl_cons]
    exact Nat.le_trans (by omega) (ih _)

/-- Digits that fit 64 bits are all leading. -/
theorem leadingDigits_eq {ds : List Char} {n m : Nat}
    (h : ds.foldl (fun n c => n * 10 + (c.toNat - 48)) n = m) (hm : m ≤ countMax) :
    leadingDigits n ds = (m, 0) := by
  induction ds generalizing n with
  | nil => exact congrArg (·, 0) h
  | cons c ds ih =>
    have hnext : n * 10 + (c.toNat - 48) ≤ countMax :=
      Nat.le_trans (le_foldl_digits ds _) (h ▸ hm)
    rw [leadingDigits]
    simp only [hnext, if_true]
    exact ih h

/-- A number that is not too great is taken to no other power of ten. -/
theorem scaled_zero {s : Bool} {m p size : Nat} (h : m <<< p < 1 <<< size) (hsize : size ≤ 2095)
    (fuel : Nat) : (scaled (fuel + 1) (.finite s m p) 0).isSome = true := by
  obtain ⟨n, k, htenPower, hn⟩ := Binary64.round_lt false (Nat.pow 10 0) 1 (by decide) (by decide)
  have hfinite : ((Binary64.finite s m p).scaleUp (.tenPower 0)).isFinite = true := by
    rw [Binary64.tenPower, htenPower]
    exact Binary64.scaleUp_isFinite 2 h hn (by omega)
  rw [scaled, if_pos (by decide), if_pos (by decide)]
  exact congrArg Option.isSome (if_pos hfinite)

/-- An integer of 64 bits stands for a number. -/
theorem ofInteger_isSome {n : Int} (h : n.natAbs ≤ countMax) : (ofInteger n).isSome = true := by
  have hdigits : leadingDigits 0 (Decimal.digits n.natAbs) = (n.natAbs, 0) :=
    leadingDigits_eq (digitsValue_digits n.natAbs) h
  obtain ⟨m, p, hround, hm⟩ := Binary64.round_lt false n.natAbs 64
    (Nat.lt_of_le_of_lt h (by decide)) (by decide)
  have hscaled := scaled_zero (s := false) hm (by decide) 7
  rw [← hround] at hscaled
  simp only [ofInteger, hdigits, fromParts, Option.isSome_map]
  exact hscaled

theorem document_integerNumeral_of_le {n : Int} (h : n.natAbs ≤ countMax) :
    (integerNumeral n).document = .integer n := by
  rw [document_integerNumeral, if_pos (ofInteger_isSome h)]

/-! ## Numbers that need not be whole -/

namespace Numeral

/-- A number with a point before the last `places` of its digits. -/
def pointed (negative : Bool) (ds : List Char) (places : Nat)
    (exponent : Option (Bool × List Char)) : Numeral :=
  if places < ds.length then
    ⟨negative, ds.take (ds.length - places), some (ds.drop (ds.length - places)), exponent⟩
  else ⟨negative, ['0'], some (List.replicate (places - ds.length) '0' ++ ds), exponent⟩

theorem chars_pointed (negative : Bool) (ds : List Char) (places : Nat)
    (exponent : Option (Bool × List Char)) : (pointed negative ds places exponent).chars =
      Binary64.sign negative ++ (Binary64.pointed ds places ++ exponentChars exponent) := by
  unfold pointed Binary64.pointed
  split <;> simp [chars, tail, fractionChars, Binary64.sign]

theorem isDigits_zeros_append {ds : List Char} (h : IsDigits ds) (k : Nat) :
    IsDigits (List.replicate k '0' ++ ds) where
  digit c hc := by
    rcases List.mem_append.1 hc with hc | hc
    · rw [List.eq_of_mem_replicate hc]
      rfl
    · exact h.digit c hc
  ne_nil := by simp [h.ne_nil]

theorem wellFormed_pointed (negative : Bool) {n places : Nat} (hn : n ≠ 0) (hplaces : 0 < places)
    {exponent : Option (Bool × List Char)} (hexponent : ∀ e ∈ exponent, IsDigits e.2) :
    (pointed negative (Decimal.digits n) places exponent).WellFormed := by
  have hds := isDigits_digits n
  unfold pointed
  split
  · next hlt =>
    refine ⟨⟨fun c hc => hds.digit c (List.mem_of_mem_take hc), ?_⟩, fun hzero => ?_, ?_, hexponent⟩
    · intro hnil
      have := congrArg List.length hnil
      rw [List.length_take, List.length_nil] at this
      omega
    · rw [List.head?_take, if_neg (by omega)] at hzero
      exact absurd hzero (head_digits_ne_zero hn)
    · intro ds hds'
      obtain rfl := Option.some.inj hds'
      refine ⟨fun c hc => hds.digit c (List.mem_of_mem_drop hc), ?_⟩
      intro hnil
      have := congrArg List.length hnil
      rw [List.length_drop, List.length_nil] at this
      omega
  · next hle =>
    refine ⟨⟨by simp, by simp⟩, by simp, ?_, hexponent⟩
    intro ds hds'
    obtain rfl := Option.some.inj hds'
    exact isDigits_zeros_append hds _

end Numeral

/-- The numeral of a finite number. -/
def floatNumeral (negative : Bool) (m p : Nat) : Numeral :=
  let (n, k) := Binary64.shortest m p
  let ds := Decimal.digits n
  let top := (ds.length : Int) + k
  if 0 ≤ k ∧ top ≤ 16 then ⟨negative, ds ++ List.replicate k.toNat '0', some ['0'], none⟩
  else if -5 < top ∧ top ≤ 16 then .pointed negative ds (-k).toNat none
  else
    let e := top - 1
    let exponent := some (decide (e < 0), Decimal.digits e.natAbs)
    if ds.length = 1 then ⟨negative, ds, none, exponent⟩
    else .pointed negative ds (ds.length - 1) exponent

theorem chars_floatNumeral (negative : Bool) (m p : Nat) :
    (floatNumeral negative m p).chars = (Binary64.finite negative m p).scientificChars := by
  unfold floatNumeral Binary64.scientificChars
  dsimp only
  split
  · simp [Numeral.chars, Numeral.tail, Numeral.fractionChars, Numeral.exponentChars, Binary64.sign]
  split
  · simp [Numeral.chars_pointed, Numeral.exponentChars]
  split
  · simp [Numeral.chars, Numeral.tail, Numeral.fractionChars, Numeral.exponentChars, Binary64.sign]
  · simp [Numeral.chars_pointed, Numeral.exponentChars]

theorem wellFormed_floatNumeral (negative : Bool) (m p : Nat) :
    (floatNumeral negative m p).WellFormed := by
  have hshortest := Binary64.shortest_zero (m := m) (p := p)
  unfold floatNumeral
  generalize Binary64.shortest m p = decimal at hshortest ⊢
  obtain ⟨n, k⟩ := decimal
  have hds := isDigits_digits n
  dsimp only at hshortest ⊢
  split
  · -- without a point in the digits
    next hk =>
    refine ⟨⟨fun c hc => ?_, by simp [hds.ne_nil]⟩, fun hzero => ?_, ?_, by simp⟩
    · rcases List.mem_append.1 hc with hc | hc
      · exact hds.digit c hc
      · rw [List.eq_of_mem_replicate hc]
        rfl
    · rw [List.head?_append_of_ne_nil _ hds.ne_nil] at hzero
      obtain rfl := eq_zero_of_head hzero
      have hone : (Decimal.digits 0 ++ List.replicate (Int.toNat 0) '0').length ≤ 1 := by decide
      rwa [hshortest rfl]
    · intro ds h
      obtain rfl := Option.some.inj h
      exact ⟨by simp, by simp⟩
  next hpoint =>
  have hn : n ≠ 0 := by
    rintro rfl
    rw [hshortest rfl] at hpoint
    exact hpoint (by decide)
  split
  · exact Numeral.wellFormed_pointed negative hn (by omega) (by simp)
  have hexponent : ∀ e ∈ some (decide (((Decimal.digits n).length : Int) + k - 1 < 0),
      Decimal.digits (((Decimal.digits n).length : Int) + k - 1).natAbs), Numeral.IsDigits e.2 := by
    intro e he
    obtain rfl := Option.some.inj he
    exact isDigits_digits _
  split
  · next hone => exact ⟨hds, fun _ => Nat.le_of_eq hone, by simp, hexponent⟩
  · next hone =>
    have hpos : 0 < (Decimal.digits n).length := List.length_pos_of_ne_nil hds.ne_nil
    exact Numeral.wellFormed_pointed negative hn (by omega) hexponent

/-- A number with a fraction or an exponent need not be whole. -/
theorem Numeral.document_decimal {n : Numeral} (h : n.fraction = none → n.exponent ≠ none) :
    n.document = (ofDecimal n.negative n.whole (n.fraction.getD [])
      ((n.exponent.map exponentValue).getD 0)).elim .unreadable .float := by
  obtain ⟨negative, whole, fraction, exponent⟩ := n
  cases fraction with
  | none =>
    cases exponent with
    | none => exact absurd rfl (h rfl)
    | some e =>
      simp only [document, Option.map_some, numberOf, Option.getD_none, Option.getD_some]
      split <;> next h => rw [h]; rfl
  | some ds =>
    simp only [document, numberOf, Option.getD_some]
    split <;> next h => rw [h]; rfl

theorem fraction_pointed (negative : Bool) (ds : List Char) (places : Nat)
    (exponent : Option (Bool × List Char)) :
    (Numeral.pointed negative ds places exponent).fraction ≠ none := by
  unfold Numeral.pointed
  split <;> simp

theorem floatNumeral_decimal (negative : Bool) (m p : Nat) :
    (floatNumeral negative m p).fraction = none → (floatNumeral negative m p).exponent ≠ none := by
  unfold floatNumeral
  dsimp only
  split
  · simp
  split
  · exact fun h => absurd h (fraction_pointed _ _ _ _)
  split
  · simp
  · exact fun h => absurd h (fraction_pointed _ _ _ _)

theorem document_floatNumeral (negative : Bool) (m p : Nat) :
    (∃ x, (floatNumeral negative m p).document = .float x) ∨
      (floatNumeral negative m p).document = .unreadable := by
  rw [Numeral.document_decimal (floatNumeral_decimal negative m p)]
  cases ofDecimal (floatNumeral negative m p).negative (floatNumeral negative m p).whole
      ((floatNumeral negative m p).fraction.getD [])
      (((floatNumeral negative m p).exponent.map Numeral.exponentValue).getD 0) with
  | none => exact .inr rfl
  | some x => exact .inl ⟨x, rfl⟩

end PacketRelay.Json
