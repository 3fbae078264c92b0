/-
  Fees as numbers.

  Products are formed in words of 256 bits.  Amounts, percentages and fractions never need all of
  them, so nothing is lost before the result is cut off at `weiMax`.

  * `clampWei_ratio`: an amount times a fraction is exact in words, up to `weiMax`;
  * `bumpByPercent_eq` and `Fraction.apply_eq`: so a percentage is added and a fraction is taken
    exactly;
  * `bumpByPercent_mono` and `Fraction.apply_mono`: a larger amount does not give less, nor does a
    larger percentage or numerator.
-/
import PacketRelay.Delivery.Pricing

namespace PacketRelay

/-- A sum that is cut off is no less than what is added to. -/
theorem le_addWei {a : Wei} (h : a ≤ weiMax) (b : Wei) : a ≤ addWei a b :=
  Nat.le_min.2 ⟨h, Nat.le_add_right a b⟩

theorem clampWei_le_weiMax (w : BitVec 256) : clampWei w ≤ weiMax := Nat.min_le_left ..

theorem Fraction.apply_le_weiMax (f : Fraction) (value : Wei) : f.apply value ≤ weiMax := by
  unfold apply
  split
  · exact Nat.zero_le weiMax
  · exact clampWei_le_weiMax _

theorem bumpByPercent_le_weiMax (value : Wei) (percent : Nat) :
    bumpByPercent value percent ≤ weiMax := clampWei_le_weiMax _

/-! ## Words -/

/-- The number of words. -/
def wordCount : Nat := 1 <<< 256

/-- An amount times a fraction, in words. -/
theorem toNat_ratio (value numerator denominator : Nat) :
    (BitVec.ofNat 256 value * BitVec.ofNat 256 numerator / BitVec.ofNat 256 denominator).toNat =
      value % wordCount * (numerator % wordCount) % wordCount / (denominator % wordCount) := by
  have hcount : wordCount = 2 ^ 256 := by decide
  simp [hcount, BitVec.toNat_udiv, BitVec.toNat_mul]

/-- An amount times a factor that is little more than a count fits into a word. -/
theorem product_fits {value factor : Nat} (hvalue : value ≤ weiMax)
    (hfactor : factor ≤ 100 + countMax) : value * factor < wordCount := by
  calc value * factor
      ≤ weiMax * (100 + countMax) := Nat.mul_le_mul hvalue hfactor
    _ < wordCount := by decide

/-- **An amount times a fraction**, up to the largest amount there is. -/
theorem clampWei_ratio {value numerator denominator : Nat} (hvalue : value ≤ weiMax)
    (hnumerator : numerator ≤ 100 + countMax) (hdenominator : denominator ≤ countMax) :
    clampWei (BitVec.ofNat 256 value * BitVec.ofNat 256 numerator / BitVec.ofNat 256 denominator) =
      min weiMax (value * numerator / denominator) := by
  have hproduct := product_fits hvalue hnumerator
  have hwide : value < wordCount := Nat.lt_of_le_of_lt hvalue (by decide)
  have hfactor : numerator < wordCount := Nat.lt_of_le_of_lt hnumerator (by decide)
  have hdivisor : denominator < wordCount := Nat.lt_of_le_of_lt hdenominator (by decide)
  rw [clampWei, toNat_ratio, Nat.mod_eq_of_lt hwide, Nat.mod_eq_of_lt hfactor,
    Nat.mod_eq_of_lt hproduct, Nat.mod_eq_of_lt hdivisor]

/-- A larger amount or a larger factor does not give less. -/
theorem ratio_mono {a b n m : Nat} (hvalue : a ≤ b) (hfactor : n ≤ m) (d : Nat) :
    min weiMax (a * n / d) ≤ min weiMax (b * m / d) := by
  have hquotient : a * n / d ≤ b * m / d := Nat.div_le_div_right (Nat.mul_le_mul hvalue hfactor)
  exact Nat.le_min.2 ⟨Nat.min_le_left .., Nat.le_trans (Nat.min_le_right ..) hquotient⟩

/-! ## Percentages -/

/-- Adding a percentage is taking a fraction of a hundred. -/
theorem bumpByPercent_eq_clampWei (value : Wei) (percent : Nat) : bumpByPercent value percent =
    clampWei (BitVec.ofNat 256 value * BitVec.ofNat 256 (100 + percent) / BitVec.ofNat 256 100) := by
  rw [BitVec.ofNat_add]
  rfl

theorem bumpByPercent_le (value : Wei) (percent : Nat) :
    bumpByPercent value percent ≤ value + value * percent / 100 := by
  have hwide : bumpByPercent value percent ≤
      value % wordCount * ((100 + percent) % wordCount) % wordCount / 100 := by
    rw [bumpByPercent_eq_clampWei]
    exact Nat.le_trans (Nat.min_le_right ..) (Nat.le_of_eq (toNat_ratio value (100 + percent) 100))
  -- words that are cut off only become less
  calc bumpByPercent value percent
      ≤ value * (100 + percent) / 100 := by
        refine Nat.le_trans hwide (Nat.div_le_div_right (Nat.le_trans (Nat.mod_le ..) ?_))
        exact Nat.mul_le_mul (Nat.mod_le ..) (Nat.mod_le ..)
    _ = value + value * percent / 100 := by
        rw [Nat.mul_add, Nat.mul_comm value 100, Nat.mul_add_div (by decide)]

section
variable {value percent : Nat}

/-- **A percentage is added exactly**, up to the largest amount there is. -/
theorem bumpByPercent_eq (hvalue : value ≤ weiMax) (hpercent : percent ≤ countMax) :
    bumpByPercent value percent = min weiMax (value * (100 + percent) / 100) := by
  rw [bumpByPercent_eq_clampWei]
  exact clampWei_ratio hvalue (Nat.add_le_add_left hpercent 100) (by decide)

/-- What lies by a percentage above the larger of two amounts is the larger one again, all the more
    when the percentage is larger too. -/
theorem bumpByPercent_mono {a percent' : Nat} (h : a ≤ value) (hvalue : value ≤ weiMax)
    (h' : percent' ≤ percent) (hpercent : percent ≤ countMax) :
    bumpByPercent a percent' ≤ bumpByPercent value percent := by
  rw [bumpByPercent_eq (Nat.le_trans h hvalue) (Nat.le_trans h' hpercent),
    bumpByPercent_eq hvalue hpercent]
  exact ratio_mono h (Nat.add_le_add_left h' 100) 100

/-- With a percentage added an amount is no less. -/
theorem le_bumpByPercent (hvalue : value ≤ weiMax) (hpercent : percent ≤ countMax) :
    value ≤ bumpByPercent value percent := by
  rw [bumpByPercent_eq hvalue hpercent, Nat.mul_add]
  exact Nat.le_min.2 ⟨hvalue, by omega⟩

/-- It is more, if the percentage makes up a wei and there is a larger amount. -/
theorem lt_bumpByPercent (hpercent : percent ≤ countMax) (hwei : 100 ≤ value * percent)
    (hvalue : value < weiMax) : value < bumpByPercent value percent := by
  rw [bumpByPercent_eq (Nat.le_of_lt hvalue) hpercent, Nat.mul_add]
  exact Nat.lt_min.2 ⟨hvalue, by omega⟩

end

/-! ## Fractions -/

section
variable {value numerator denominator : Nat}

/-- **A fraction is taken exactly**, up to the largest amount there is. -/
theorem Fraction.apply_eq (hvalue : value ≤ weiMax) (hnumerator : numerator ≤ countMax)
    (hpos : 0 < denominator) (hdenominator : denominator ≤ countMax) :
    apply ⟨numerator, denominator⟩ value = min weiMax (value * numerator / denominator) := by
  rw [apply, if_neg (Nat.ne_of_gt hpos)]
  exact clampWei_ratio hvalue (Nat.le_trans hnumerator (Nat.le_add_left ..)) hdenominator

/-- A larger amount or a larger numerator does not give less. -/
theorem Fraction.apply_mono {a numerator' : Nat} (h : a ≤ value) (hvalue : value ≤ weiMax)
    (h' : numerator' ≤ numerator) (hnumerator : numerator ≤ countMax) (hpos : 0 < denominator)
    (hdenominator : denominator ≤ countMax) :
    apply ⟨numerator', denominator⟩ a ≤ apply ⟨numerator, denominator⟩ value := by
  rw [apply_eq hvalue hnumerator hpos hdenominator,
    apply_eq (Nat.le_trans h hvalue) (Nat.le_trans h' hnumerator) hpos hdenominator]
  exact ratio_mono h h' denominator

/-- **Fees are scaled exactly.**  An amount with a percentage added and a fraction of it are rounded
    down and cut off at the largest amount, and no product is too large for a word.  A larger amount,
    percentage or numerator does not give less.  With a percentage added an amount is no less, and it
    is more if the percentage makes up a wei and there is a larger amount. -/
theorem fees_scaled_exactly {percent : Nat} (hvalue : value ≤ weiMax) (hpercent : percent ≤ countMax)
    (hnumerator : numerator ≤ countMax) (hpos : 0 < denominator)
    (hdenominator : denominator ≤ countMax) :
    (bumpByPercent value percent = min weiMax (value * (100 + percent) / 100) ∧
      value * (100 + percent) < wordCount) ∧
    (Fraction.apply ⟨numerator, denominator⟩ value = min weiMax (value * numerator / denominator) ∧
      value * numerator < wordCount) ∧
    (∀ value' ≤ value, ∀ percent' ≤ percent,
      bumpByPercent value' percent' ≤ bumpByPercent value percent) ∧
    (∀ value' ≤ value, ∀ numerator' ≤ numerator,
      Fraction.apply ⟨numerator', denominator⟩ value' ≤
        Fraction.apply ⟨numerator, denominator⟩ value) ∧
    value ≤ bumpByPercent value percent ∧
    (100 ≤ value * percent → value < weiMax → value < bumpByPercent value percent) := by
  have hsum : 100 + percent ≤ 100 + countMax := Nat.add_le_add_left hpercent 100
  have hcount : numerator ≤ 100 + countMax := Nat.le_trans hnumerator (Nat.le_add_left ..)
  exact ⟨⟨bumpByPercent_eq hvalue hpercent, product_fits hvalue hsum⟩,
    ⟨Fraction.apply_eq hvalue hnumerator hpos hdenominator, product_fits hvalue hcount⟩,
    fun _ h _ h' => bumpByPercent_mono h hvalue h' hpercent,
    fun _ h _ h' => Fraction.apply_mono h hvalue h' hnumerator hpos hdenominator,
    le_bumpByPercent hvalue hpercent, lt_bumpByPercent hpercent⟩

end

/-- The largest percentage and the largest fraction of all but the largest amount are cut off. -/
theorem fees_scaled_exactly_cut_off :
    weiMax - 1 ≤ weiMax ∧ countMax ≤ countMax ∧ 0 < 1 ∧ 1 ≤ countMax ∧
    bumpByPercent (weiMax - 1) countMax = weiMax ∧
    Fraction.apply ⟨countMax, 1⟩ (weiMax - 1) = weiMax ∧
    weiMax - 1 < bumpByPercent (weiMax - 1) countMax := by
  have hvalue : weiMax - 1 ≤ weiMax := Nat.sub_le ..
  have hdenominator : 1 ≤ countMax := by decide
  obtain ⟨⟨hbumped, -⟩, ⟨happlied, -⟩, -, -, -, hmore⟩ :=
    fees_scaled_exactly hvalue (Nat.le_refl countMax) (Nat.le_refl countMax) Nat.one_pos hdenominator
  exact ⟨hvalue, Nat.le_refl _, Nat.one_pos, hdenominator, hbumped.trans (by decide),
    happlied.trans (by decide), hmore (by decide) (by decide)⟩

end PacketRelay
