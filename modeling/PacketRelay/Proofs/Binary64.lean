/-
  Rounding, and the shortest decimals.

  * `round_cases`: a fraction below all bounds is rounded to a finite number, which is at most twice
    as large;
  * `shortest_cases`: the shortest decimal of a number rounds back to it.
-/
import PacketRelay.Binary64
import Mathlib.Tactic.Linarith

namespace PacketRelay.Binary64

/-! ## Rounding -/

theorem shiftLeft_eq_mul (n k : Nat) : n <<< k = n * 1 <<< k := by
  rw [Nat.shiftLeft_eq, Nat.shiftLeft_eq, Nat.one_mul]

theorem one_shiftLeft_pos (k : Nat) : 0 < 1 <<< k := by
  rw [Nat.shiftLeft_eq, Nat.one_mul]
  exact Nat.two_pow_pos k

theorem one_pos : 0 < one := one_shiftLeft_pos 1074

theorem roundDiv_le (n d : Nat) : roundDiv n d ≤ n / d + 1 := by
  unfold roundDiv
  dsimp only
  split <;> omega

/-- What a fraction is rounded to, by its whole part `q` in units and its 53 digits `m`. -/
theorem round_eq (negative : Bool) {a b q m : Nat} (hq : a * one / b = q)
    (hm : roundDiv (a * one) (b <<< (q.log2 - 52)) = m) : round negative a b =
      if m = 1 <<< 53 then
        if 2045 < q.log2 - 52 + 1 then infinite negative
        else finite negative (1 <<< 52) (q.log2 - 52 + 1)
      else if 2045 < q.log2 - 52 then infinite negative else finite negative m (q.log2 - 52) := by
  -- the unit is a variable when the definition is unfolded, or else it would be worked out
  obtain ⟨r, hr⟩ : ∃ r, round = r := ⟨round, rfl⟩
  obtain ⟨unit, hunit⟩ : ∃ n, one = n := ⟨one, rfl⟩
  rw [hr]
  delta round at hr
  rw [hunit] at hr hq hm
  rw [← hr]
  simp only [hq, hm]
  split <;> rfl

theorem one_shiftLeft_scale_le (q : Nat) : 1 <<< (q.log2 - 52) ≤ q + 1 := by
  by_cases hq : q = 0
  · subst hq
    decide
  · rw [Nat.shiftLeft_eq, Nat.one_mul]
    calc 2 ^ (q.log2 - 52) ≤ 2 ^ q.log2 := Nat.pow_le_pow_right (by decide) (Nat.sub_le _ _)
      _ ≤ q + 1 := Nat.le_succ_of_le (Nat.log2_self_le hq)

theorem scale_le {q k : Nat} (h : q < 1 <<< (k + 53)) : q.log2 - 52 ≤ k := by
  by_cases hq : q = 0
  · subst hq
    exact Nat.zero_le k
  · rw [Nat.shiftLeft_eq, Nat.one_mul] at h
    have hlog := (Nat.log2_lt hq).2 h
    omega

/-- The digits of a fraction are not much greater than its whole part. -/
theorem roundDiv_shiftLeft_le {a b q : Nat} (hq : a / b = q) (scale : Nat)
    (hscale : 1 <<< scale ≤ q + 1) : roundDiv a (b <<< scale) <<< scale ≤ 2 * q + 1 := by
  have hdiv : a / (b <<< scale) = q / 1 <<< scale := by
    rw [shiftLeft_eq_mul b, ← Nat.div_div_eq_div_mul, hq]
  have hm := roundDiv_le a (b <<< scale)
  rw [hdiv] at hm
  calc roundDiv a (b <<< scale) <<< scale = roundDiv a (b <<< scale) * 1 <<< scale :=
        shiftLeft_eq_mul _ _
    _ ≤ (q / 1 <<< scale + 1) * 1 <<< scale := Nat.mul_le_mul_right _ hm
    _ = q / 1 <<< scale * 1 <<< scale + 1 <<< scale := Nat.succ_mul _ _
    _ ≤ q + (q + 1) := Nat.add_le_add (Nat.div_mul_le_self _ _) hscale
    _ = 2 * q + 1 := by omega

/-- A fraction below all bounds is rounded to a finite number that is not much greater. -/
theorem round_cases (negative : Bool) {a b q : Nat} (hq : a * one / b = q)
    (h : q < 1 <<< (2044 + 53)) :
    ∃ m p, round negative a b = finite negative m p ∧ m <<< p ≤ 2 * q + 1 := by
  have hscale := scale_le h
  have hmagnitude := roundDiv_shiftLeft_le hq _ (one_shiftLeft_scale_le q)
  rw [round_eq negative hq rfl]
  split
  · next hcarry =>
    refine ⟨1 <<< 52, q.log2 - 52 + 1, if_neg (by omega), ?_⟩
    rw [hcarry, ← Nat.shiftLeft_add] at hmagnitude
    rwa [← Nat.shiftLeft_add, Nat.add_comm (q.log2 - 52), ← Nat.add_assoc]
  · exact ⟨_, _, if_neg (by omega), hmagnitude⟩

theorem one_shiftLeft_mul (j k : Nat) : 1 <<< j * 1 <<< k = 1 <<< (j + k) := by
  rw [← shiftLeft_eq_mul, ← Nat.shiftLeft_add]

theorem one_shiftLeft_le {j k : Nat} (h : j ≤ k) : 1 <<< j ≤ 1 <<< k := by
  rw [Nat.shiftLeft_eq, Nat.shiftLeft_eq, Nat.one_mul, Nat.one_mul]
  exact Nat.pow_le_pow_right (by decide) h

/-- A number of few digits is rounded to a finite number. -/
theorem round_lt (negative : Bool) (n size : Nat) (hn : n < 1 <<< size) (hsize : size ≤ 1022) :
    ∃ m p, round negative n 1 = finite negative m p ∧ m <<< p < 1 <<< (size + 1075) := by
  have hunits : n * one < 1 <<< (size + 1074) := by
    calc n * one < 1 <<< size * one := Nat.mul_lt_mul_of_pos_right hn one_pos
      _ = 1 <<< (size + 1074) := one_shiftLeft_mul size 1074
  obtain ⟨m, p, hround, hm⟩ := round_cases negative (Nat.div_one (n * one))
    (Nat.lt_of_lt_of_le hunits (one_shiftLeft_le (by omega)))
  refine ⟨m, p, hround, Nat.lt_of_le_of_lt hm ?_⟩
  have hdouble : 1 <<< (size + 1075) = 2 * 1 <<< (size + 1074) := Nat.shiftLeft_succ 1 (size + 1074)
  omega

/-- A product of numbers that are not too great is finite. -/
theorem scaleUp_isFinite {s t : Bool} {m p n k size : Nat} (size' : Nat)
    (hx : m <<< p < 1 <<< size) (hy : n <<< k < 1 <<< (size' + 1074)) (h : size + size' ≤ 2097) :
    ((finite s m p).scaleUp (finite t n k)).isFinite = true := by
  have hquotient : m <<< p * n <<< k * one / (one * one) < 1 <<< (size + size') := by
    rw [Nat.mul_div_mul_right _ _ one_pos, Nat.div_lt_iff_lt_mul one_pos]
    calc m <<< p * n <<< k < 1 <<< size * 1 <<< (size' + 1074) := Nat.mul_lt_mul'' hx hy
      _ = 1 <<< (size + size') * one := by
        rw [one_shiftLeft_mul, ← Nat.add_assoc]
        exact (one_shiftLeft_mul _ 1074).symm
  obtain ⟨m', p', hround, -⟩ := round_cases s rfl
    (Nat.lt_of_lt_of_le hquotient (one_shiftLeft_le h))
  rw [scaleUp, hround]
  rfl

/-! ## Nearest numbers -/

/-- A quotient is rounded to a number from which it is at most a half away, and to an even one if
    it is a half away. -/
theorem roundDiv_eq {n d m : Nat} (hd : 0 < d) (hlow : 2 * (m * d) ≤ 2 * n + d)
    (hhigh : 2 * n ≤ 2 * (m * d) + d)
    (htie : 2 * (m * d) = 2 * n + d ∨ 2 * n = 2 * (m * d) + d → m % 2 = 0) :
    roundDiv n d = m := by
  have hsplit : d * (n / d) + n % d = n := Nat.div_add_mod n d
  have hrest : n % d < d := Nat.mod_lt n hd
  unfold roundDiv
  dsimp only
  generalize n / d = q at *
  generalize n % d = r at *
  have hle : q ≤ m := by
    by_contra hlt
    have : (m + 1) * d ≤ q * d := Nat.mul_le_mul_right d (by omega)
    rw [Nat.succ_mul, Nat.mul_comm q d] at this
    omega
  have hge : m ≤ q + 1 := by
    by_contra hlt
    have : (q + 2) * d ≤ m * d := Nat.mul_le_mul_right d (by omega)
    rw [Nat.add_mul, Nat.mul_comm q d] at this
    omega
  obtain rfl | rfl : m = q ∨ m = q + 1 := by omega
  · rw [Nat.mul_comm m d] at hlow hhigh htie
    rw [if_neg (by omega)]
  · rw [Nat.add_mul, Nat.mul_comm q d, Nat.one_mul] at hlow hhigh htie
    rw [if_pos (by omega)]

theorem roundDiv_mul (n d : Nat) {c : Nat} (hc : 0 < c) :
    roundDiv (n * c) (d * c) = roundDiv n d := by
  have hhalf : ∀ x, 2 * (x * c) = 2 * x * c := fun x => (Nat.mul_assoc 2 x c).symm
  simp only [roundDiv, Nat.mul_div_mul_right _ _ hc, Nat.mul_mod_mul_right, hhalf,
    Nat.mul_lt_mul_right hc, Nat.mul_left_inj (Nat.ne_of_gt hc)]

/-- What a fraction is rounded to does not depend on how it is written. -/
theorem round_mul (negative : Bool) (a b : Nat) {c : Nat} (hc : 0 < c) :
    round negative (a * c) (b * c) = round negative a b := by
  have hunits : a * c * one = a * one * c := Nat.mul_right_comm a c one
  have hq : a * c * one / (b * c) = a * one / b := by rw [hunits, Nat.mul_div_mul_right _ _ hc]
  have hm : roundDiv (a * c * one) ((b * c) <<< ((a * one / b).log2 - 52)) =
      roundDiv (a * one) (b <<< ((a * one / b).log2 - 52)) := by
    rw [hunits, shiftLeft_eq_mul (b * c), Nat.mul_right_comm b c, ← shiftLeft_eq_mul b,
      roundDiv_mul _ _ hc]
  rw [round_eq negative hq hm, round_eq negative rfl rfl]

theorem scale_eq {q p : Nat} (hlow : p = 0 ∨ 1 <<< (p + 52) ≤ q) (hhigh : q < 1 <<< (p + 53)) :
    q.log2 - 52 = p := by
  refine Nat.le_antisymm (scale_le hhigh) ?_
  rcases hlow with rfl | hlow
  · exact Nat.zero_le _
  · have hq : q ≠ 0 := Nat.ne_of_gt (Nat.lt_of_lt_of_le (one_shiftLeft_pos _) hlow)
    rw [Nat.shiftLeft_eq, Nat.one_mul] at hlow
    have hlog := (Nat.le_log2 hq).2 hlow
    omega

/-- A significand has 53 digits unless the number is very small. -/
structure IsCanonical (m p : Nat) : Prop where
  lt : m < 1 <<< 53
  le : 0 < p → 1 <<< 52 ≤ m
  scale : p ≤ 2045

section
variable {m p a b : Nat}

theorem bounds_eq (m p : Nat) : bounds m p =
    ((4 * m - if m = 1 <<< 52 ∧ 0 < p then 1 else 2) * 1 <<< p, (4 * m + 2) * 1 <<< p) := by
  rw [bounds, ← shiftLeft_eq_mul, ← shiftLeft_eq_mul]

/-- A fraction above the least number of its size. -/
theorem round_of_le (negative : Bool) (hm : IsCanonical m p) (hb : 0 < b)
    (hsize : p = 0 ∨ 1 <<< 52 * (b * 1 <<< p) ≤ a * one)
    (hlow : 4 * (m * (b * 1 <<< p)) ≤ 4 * (a * one) + 2 * (b * 1 <<< p))
    (hhigh : 4 * (a * one) ≤ 4 * (m * (b * 1 <<< p)) + 2 * (b * 1 <<< p))
    (htie : 4 * (m * (b * 1 <<< p)) = 4 * (a * one) + 2 * (b * 1 <<< p) ∨
      4 * (a * one) = 4 * (m * (b * 1 <<< p)) + 2 * (b * 1 <<< p) → m % 2 = 0) :
    round negative a b = finite negative m p := by
  have hpos : 0 < b * 1 <<< p := Nat.mul_pos hb (one_shiftLeft_pos p)
  have hlt := hm.lt
  have hscale := hm.scale
  have hlog : (a * one / b).log2 - 52 = p := by
    refine scale_eq (hsize.imp_right fun hsize => ?_) ?_
    · rw [Nat.le_div_iff_mul_le hb, Nat.add_comm, ← one_shiftLeft_mul, Nat.mul_assoc,
        Nat.mul_comm _ b]
      exact hsize
    · have hmul : m * (b * 1 <<< p) ≤ (1 <<< 53 - 1) * (b * 1 <<< p) :=
        Nat.mul_le_mul_right _ (by omega)
      rw [Nat.div_lt_iff_lt_mul hb, Nat.add_comm, ← one_shiftLeft_mul, Nat.mul_assoc,
        Nat.mul_comm _ b]
      rw [Nat.sub_mul] at hmul
      omega
  have hround : roundDiv (a * one) (b <<< p) = m := by
    rw [shiftLeft_eq_mul]
    exact roundDiv_eq hpos (by omega) (by omega) (fun h => htie (by omega))
  rw [round_eq negative rfl rfl, hlog, hround, if_neg (by omega), if_neg (by omega)]

/-- A fraction below the least number of its size is rounded up to it. -/
theorem round_of_lt (negative : Bool) (hp : p + 1 ≤ 2045) (hb : 0 < b)
    (hlow : 4 * (1 <<< 52 * (b * 1 <<< (p + 1))) ≤ 4 * (a * one) + b * 1 <<< (p + 1))
    (hhigh : a * one < 1 <<< 52 * (b * 1 <<< (p + 1))) :
    round negative a b = finite negative (1 <<< 52) (p + 1) := by
  have hpos : 0 < b * 1 <<< p := Nat.mul_pos hb (one_shiftLeft_pos p)
  have hdouble : b * 1 <<< (p + 1) = 2 * (b * 1 <<< p) := by
    rw [Nat.shiftLeft_succ 1 p, Nat.mul_left_comm]
  rw [hdouble] at hlow hhigh
  have hlog : (a * one / b).log2 - 52 = p := by
    refine scale_eq (.inr ?_) ?_
    · rw [Nat.le_div_iff_mul_le hb, Nat.add_comm, ← one_shiftLeft_mul, Nat.mul_assoc,
        Nat.mul_comm _ b]
      omega
    · rw [Nat.div_lt_iff_lt_mul hb, Nat.add_comm, ← one_shiftLeft_mul, Nat.mul_assoc,
        Nat.mul_comm _ b]
      omega
  have hround : roundDiv (a * one) (b <<< p) = 1 <<< 53 := by
    rw [shiftLeft_eq_mul]
    exact roundDiv_eq hpos (by omega) (by omega) (fun _ => by decide)
  rw [round_eq negative rfl rfl, hlog, hround, if_pos rfl, if_neg (by omega)]

/-- **A fraction within the bounds of a number is rounded to it.** -/
theorem round_of_bounds (negative : Bool) (hm : IsCanonical m p) (hb : 0 < b)
    (hlow : (bounds m p).1 * b ≤ 4 * (a * one)) (hhigh : 4 * (a * one) ≤ (bounds m p).2 * b)
    (heven : (bounds m p).1 * b = 4 * (a * one) ∨ 4 * (a * one) = (bounds m p).2 * b →
      m % 2 = 0) : round negative a b = finite negative m p := by
  have hmul : ∀ x, x * 1 <<< p * b = x * (b * 1 <<< p) := fun x => by
    rw [Nat.mul_assoc, Nat.mul_comm _ b]
  simp only [bounds_eq, hmul, Nat.sub_mul, Nat.add_mul, Nat.mul_assoc 4] at hlow hhigh heven
  have hpos : 0 < b * 1 <<< p := Nat.mul_pos hb (one_shiftLeft_pos p)
  by_cases hbelow : (m = 1 <<< 52 ∧ 0 < p) ∧ a * one < 1 <<< 52 * (b * 1 <<< p)
  · obtain ⟨⟨rfl, hp⟩, hlt⟩ := hbelow
    rw [if_pos ⟨rfl, hp⟩] at hlow
    have hscale := hm.scale
    cases p with
    | zero => exact absurd hp (Nat.lt_irrefl 0)
    | succ p => exact round_of_lt negative hscale hb (by omega) hlt
  · refine round_of_le negative hm hb ?_ ?_ hhigh ?_
    · rcases Nat.eq_zero_or_pos p with hp | hp
      · exact .inl hp
      · refine .inr (Nat.not_lt.1 fun hlt => ?_)
        have hne : m ≠ 1 <<< 52 := fun h => hbelow ⟨⟨h, hp⟩, hlt⟩
        have hle := hm.le hp
        rw [if_neg (fun h => hne h.1)] at hlow
        have hmul : (1 <<< 52 + 1) * (b * 1 <<< p) ≤ m * (b * 1 <<< p) :=
          Nat.mul_le_mul_right _ (by omega)
        rw [Nat.add_mul] at hmul
        omega
    · split at hlow <;> omega
    · intro htie
      by_cases hleast : m = 1 <<< 52 ∧ 0 < p
      · rw [hleast.1]
        decide
      · rw [if_neg hleast] at heven
        exact heven (by omega)

/-- A whole number of units is represented when all its digits fit. -/
theorem round_exact {n size : Nat} (hunits : n * one = m * 1 <<< size) (hm : m < 1 <<< 53)
    (hsize : size ≤ 2044) : ∃ k q, round false n 1 = finite false k q ∧ k <<< q = n * one := by
  have hle : (n * one).log2 - 52 ≤ size := by
    refine scale_le ?_
    rw [hunits, Nat.add_comm, ← one_shiftLeft_mul]
    exact Nat.mul_lt_mul_of_pos_right hm (one_shiftLeft_pos size)
  obtain ⟨rest, hrest⟩ := Nat.exists_eq_add_of_le hle
  have hq : n * one / 1 = n * one := Nat.div_one _
  rw [round_eq false hq rfl]
  generalize (n * one).log2 - 52 = scale at *
  have hround : roundDiv (n * one) (1 <<< scale) = m * 1 <<< rest := by
    rw [hunits, hrest, Nat.add_comm, ← one_shiftLeft_mul, ← Nat.mul_assoc]
    have hpos := one_shiftLeft_pos scale
    exact roundDiv_eq hpos (by omega) (by omega) (fun h => by omega)
  have hback : (m * 1 <<< rest) <<< scale = n * one := by
    rw [shiftLeft_eq_mul, Nat.mul_assoc, one_shiftLeft_mul, hunits, hrest, Nat.add_comm]
  rw [hround]
  split
  · next hcarry =>
    refine ⟨_, _, if_neg (by omega), ?_⟩
    rw [hcarry, ← Nat.shiftLeft_add] at hback
    rw [← hback, ← Nat.shiftLeft_add]
    congr 1
    omega
  · exact ⟨_, _, if_neg (by omega), hback⟩

end

/-! ## The shortest decimal -/

theorem readsBack_of_candidate {m p digits c : Nat} {k : Int}
    (h : candidate? m p digits = some (c, k)) : readsBack m p c k = true := by
  unfold candidate? at h
  dsimp only at h
  split at h
  · next h₁ h₂ =>
    obtain ⟨hc, rfl⟩ := Prod.mk.inj (Option.some.inj h)
    rw [← hc]
    split
    · exact h₂
    · exact h₁
  · next h₁ _ =>
    obtain ⟨rfl, rfl⟩ := Prod.mk.inj (Option.some.inj h)
    exact h₁
  · next _ h₂ =>
    obtain ⟨rfl, rfl⟩ := Prod.mk.inj (Option.some.inj h)
    exact h₂
  · cases h

theorem bounds_pos {m : Nat} (p : Nat) (hm : m ≠ 0) : 0 < (bounds m p).1 := by
  have hbelow : 0 < 4 * m - if m = 1 <<< 52 ∧ 0 < p then 1 else 2 := by split <;> omega
  rw [bounds, Nat.shiftLeft_eq]
  exact Nat.mul_pos hbelow (Nat.two_pow_pos p)

/-- Zero does not round to a positive number. -/
theorem readsBack_zero {m : Nat} (p : Nat) (k : Int) (hm : m ≠ 0) : readsBack m p 0 k = false := by
  have hlow : 0 < (bounds m p).1 * Nat.pow 10 (-k).toNat :=
    Nat.mul_pos (bounds_pos p hm) (Nat.pow_pos (by decide))
  have hnot : ¬ (bounds m p).1 * Nat.pow 10 (-k).toNat ≤ 0 := Nat.not_le.2 hlow
  simp only [readsBack, Nat.mul_zero, Nat.zero_mul, hnot, Nat.not_lt_zero, decide_false,
    Bool.false_and, ite_self]

theorem stripped_ne_zero (fuel : Nat) {n : Nat} (k : Int) (hn : n ≠ 0) :
    (stripped fuel n k).1 ≠ 0 := by
  induction fuel generalizing n k with
  | zero => exact hn
  | succ fuel ih =>
    rw [stripped]
    split
    · exact ih _ (by omega)
    · exact hn

/-- What the shortest decimal of a number is. -/
theorem shortest_cases (m p : Nat) : shortest m p = (0, 0) ∨
    m ≠ 0 ∧ ∃ c k, c ≠ 0 ∧ readsBack m p c k = true ∧ shortest m p = stripped 18 c k := by
  unfold shortest
  split
  · exact .inl rfl
  · next hm =>
    cases hfound : (List.range' 1 17).findSome? (candidate? m p) with
    | none => exact .inl rfl
    | some found =>
      obtain ⟨digits, -, hcandidate⟩ := List.exists_of_findSome?_eq_some hfound
      have hreads := readsBack_of_candidate hcandidate
      refine .inr ⟨hm, found.1, found.2, fun hzero => ?_, hreads, rfl⟩
      rw [hzero, readsBack_zero p _ hm] at hreads
      cases hreads

theorem shortest_zero {m p : Nat} (h : (shortest m p).1 = 0) : (shortest m p).2 = 0 := by
  rcases shortest_cases m p with hzero | ⟨-, c, k, hc, -, hshortest⟩
  · rw [hzero]
  · rw [hshortest] at h
    exact absurd h (stripped_ne_zero 18 k hc)

/-- A decimal that reads back is rounded to the number. -/
theorem round_of_readsBack {m p n : Nat} {k : Int} (negative : Bool) (hm : IsCanonical m p)
    (h : readsBack m p n k = true) :
    round negative (n * Nat.pow 10 k.toNat) (Nat.pow 10 (-k).toNat) = finite negative m p := by
  have hvalue : 4 * n * one * Nat.pow 10 k.toNat = 4 * (n * Nat.pow 10 k.toNat * one) := by
    rw [Nat.mul_assoc 4, Nat.mul_assoc 4, Nat.mul_right_comm]
  have hpos : 0 < Nat.pow 10 (-k).toNat := Nat.pow_pos (by decide)
  simp only [readsBack, hvalue] at h
  split at h
  · next heven =>
    rw [Bool.and_eq_true, decide_eq_true_iff, decide_eq_true_iff] at h
    exact round_of_bounds negative hm hpos h.1 h.2 fun _ => heven
  · rw [Bool.and_eq_true, decide_eq_true_iff, decide_eq_true_iff] at h
    exact round_of_bounds negative hm hpos (Nat.le_of_lt h.1) (Nat.le_of_lt h.2) (by omega)

/-- A zero at the end of the digits may be written into the exponent. -/
theorem readsBack_ten (m p n : Nat) (k : Int) :
    readsBack m p (n * 10) k = readsBack m p n (k + 1) := by
  rcases Int.lt_or_le k 0 with hk | hk
  · have hneg : (-k).toNat = (-(k + 1)).toNat + 1 := by omega
    have hzero : k.toNat = 0 ∧ (k + 1).toNat = 0 := by omega
    have hpow : Nat.pow 10 (-k).toNat = Nat.pow 10 (-(k + 1)).toNat * 10 := by
      rw [hneg]
      rfl
    have hvalue : 4 * (n * 10) * one * Nat.pow 10 0 = 4 * n * one * Nat.pow 10 0 * 10 := by
      rw [← Nat.mul_assoc 4, Nat.mul_right_comm _ 10 one, Nat.mul_right_comm _ 10]
    have hbound : ∀ x, x * (Nat.pow 10 (-(k + 1)).toNat * 10) =
        x * Nat.pow 10 (-(k + 1)).toNat * 10 := fun x => (Nat.mul_assoc x _ 10).symm
    simp only [readsBack, hpow, hzero.1, hzero.2, hvalue, hbound,
      Nat.mul_le_mul_right_iff (by decide : 0 < 10), Nat.mul_lt_mul_right (by decide : 0 < 10)]
  · have hpos : (k + 1).toNat = k.toNat + 1 := by omega
    have hzero : (-k).toNat = 0 ∧ (-(k + 1)).toNat = 0 := by omega
    have hvalue : 4 * (n * 10) * one * Nat.pow 10 k.toNat =
        4 * n * one * Nat.pow 10 (k.toNat + 1) := by
      rw [← Nat.mul_assoc 4, Nat.mul_right_comm _ 10 one, Nat.mul_assoc _ 10, Nat.mul_comm 10]
      rfl
    simp only [readsBack, hzero.1, hzero.2, hpos, hvalue]

theorem readsBack_tenPower (m p n j : Nat) (k : Int) :
    readsBack m p (n * Nat.pow 10 j) k = readsBack m p n (k + j) := by
  induction j generalizing k with
  | zero => simp
  | succ j ih =>
    have hpow : n * Nat.pow 10 (j + 1) = n * Nat.pow 10 j * 10 := (Nat.mul_assoc _ _ 10).symm
    rw [hpow, readsBack_ten, ih]
    congr 1
    omega

theorem readsBack_stripped (m p fuel n : Nat) (k : Int) :
    readsBack m p (stripped fuel n k).1 (stripped fuel n k).2 = readsBack m p n k := by
  induction fuel generalizing n k with
  | zero => rfl
  | succ fuel ih =>
    rw [stripped]
    split
    · next h =>
      rw [ih, ← readsBack_ten]
      congr 1
      omega
    · rfl

/-- **The shortest decimal rounds back**, if there is one. -/
theorem readsBack_shortest {m p : Nat} (h : (shortest m p).1 = 0 → m = 0) :
    readsBack m p (shortest m p).1 (shortest m p).2 = true := by
  rcases shortest_cases m p with hzero | ⟨-, c, k, -, hreads, hshortest⟩
  · rw [hzero] at h ⊢
    obtain rfl := h rfl
    simp [readsBack, bounds]
  · rw [hshortest, readsBack_stripped]
    exact hreads

end PacketRelay.Binary64
