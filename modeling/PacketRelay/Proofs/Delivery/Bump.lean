/-
  Raising the fees of a transaction.

  Each fee is raised by its own increment up to its own maximum, whatever the others are.

  * `FeeBounds.bumpFees_eq_ok_iff`: the request that comes of it, of which there is only one;
  * `FeeBounds.excess?` is the first fee that would get above its maximum, and
    `FeeBounds.bumpFees_of_excess` the error that names it;
  * `bumpFees_exact`: when fees are raised, to what, and what is wrong otherwise;
  * `FeeBounds.keepsOrder_iff`: a tip that was not above the fee cap may well be above it afterwards, as
    soon as its increment is the larger one (`bumpFees_out_of_order`).
-/
import PacketRelay.Proofs.Delivery.Increment

namespace PacketRelay

/-! ## The request -/

/-- Two requests that agree with a third one in all but the fees, and with each other in these, are the
    same. -/
theorem TransactionRequest.SameButFees.ext {q q' r : TransactionRequest} (h : q.SameButFees r)
    (h' : q'.SameButFees r) (hfee : ∀ f, q.fee f = q'.fee f) : q = q' := by
  have hprice : q.gasPrice = q'.gasPrice := hfee .gasPrice
  have htip : q.tipCap = q'.tipCap := hfee .tipCap
  have hcap : q.feeCap = q'.feeCap := hfee .feeCap
  cases q
  cases q'
  simp only [SameButFees] at h h' hprice htip hcap
  have hsame := h.trans h'.symm
  simp only [TransactionRequest.mk.injEq] at hsame ⊢
  simp [hsame, hprice, htip, hcap]

theorem feeFields_ne_nil_iff {type : Nat} : feeFields type ≠ [] ↔ type ≤ blobType := by
  unfold feeFields
  split
  case isTrue h =>
    rcases h with rfl | rfl <;> decide
  case isFalse h =>
    split
    case isTrue h =>
      rcases h with rfl | rfl <;> decide
    case isFalse h' =>
      simp only [legacyType, accessListType, dynamicFeeType, blobType] at h h' ⊢
      simp only [ne_eq, not_true_eq_false, false_iff]
      omega

namespace FeeBounds

variable {b : FeeBounds} {t : Transaction} {q q' : TransactionRequest} {f : FeeField}

theorem Raises.unique (h : b.Raises t q) (h' : b.Raises t q') : q = q' := by
  refine h.others.ext h'.others fun f => ?_
  by_cases hf : f ∈ feeFields t.type
  · rw [h.fees f hf, h'.fees f hf]
  · rw [h.otherFees f hf, h'.otherFees f hf]

theorem Raises.not_refuses (h : b.Raises t q) {e : DeliveryError} : ¬ b.Refuses t e := by
  intro hrefuses
  cases hrefuses with
  | irreplaceable hfields => exact h.replaceable hfields
  | aboveMaximum hf hlt => exact absurd (h.within _ hf) (Nat.not_le.2 hlt)

/-- There is one request that raises the fees of a transaction, and it is the one that is made. -/
theorem bumpFees_eq_ok_iff : bumpFees t b = .ok q ↔ b.Raises t q := by
  constructor
  · exact raises_of_ok
  · intro hraises
    rcases bumps b t with ⟨q', hok, hraises'⟩ | ⟨e, -, hrefuses⟩
    · rw [hok, hraises.unique hraises']
    · exact absurd hrefuses hraises.not_refuses

/-- Fees are raised as soon as a transaction has any and none gets above its maximum. -/
theorem exists_ok_iff : (∃ q, bumpFees t b = .ok q) ↔
    feeFields t.type ≠ [] ∧ ∀ f ∈ feeFields t.type, b.raise t f ≤ b.maximum f := by
  constructor
  · rintro ⟨q, hok⟩
    have hraises := raises_of_ok hok
    exact ⟨hraises.replaceable, hraises.within⟩
  · rintro ⟨hfields, hwithin⟩
    rcases bumps b t with ⟨q, hok, -⟩ | ⟨e, -, hrefuses⟩
    · exact ⟨q, hok⟩
    · cases hrefuses with
      | irreplaceable hnone => exact absurd hnone hfields
      | aboveMaximum hf hlt => exact absurd (hwithin _ hf) (Nat.not_le.2 hlt)

/-! ## What is wrong -/

/-- The first fee that would get above its maximum. -/
def excess? (b : FeeBounds) (t : Transaction) : Option FeeField :=
  (feeFields t.type).find? fun f => b.maximum f < b.raise t f

theorem lt_of_excess (h : b.excess? t = some f) : b.maximum f < b.raise t f :=
  of_decide_eq_true (List.find?_some (p := fun f => decide (b.maximum f < b.raise t f)) h)

theorem excess_caps (h : t.type = dynamicFeeType ∨ t.type = blobType)
    (htip : b.maximum .tipCap < b.raise t .tipCap) : b.excess? t = some .tipCap := by
  simp [excess?, feeFields_caps h, htip]

/-- The first fee that would get above its maximum is the one that is complained about. -/
theorem bumpFees_of_excess (h : b.excess? t = some f) :
    bumpFees t b = .error (.configuration (.aboveMaximum f (b.raise t f) (b.maximum f))) := by
  have hlt := lt_of_excess h
  by_cases hprice : t.type = legacyType ∨ t.type = accessListType
  · rw [excess?, feeFields_price hprice] at h
    obtain rfl : f = .gasPrice := List.mem_singleton.1 (List.mem_of_find?_eq_some h)
    rw [bumpFees_price hprice, raised_of_lt hlt]
    rfl
  · by_cases hcaps : t.type = dynamicFeeType ∨ t.type = blobType
    · rcases Nat.lt_or_ge (b.maximum .tipCap) (b.raise t .tipCap) with htip | htip
      · obtain rfl : f = .tipCap := Option.some.inj (h.symm.trans (excess_caps hcaps htip))
        rw [bumpFees_caps hcaps, raised_of_lt htip]
        rfl
      · have hmem := List.mem_of_find?_eq_some h
        rw [feeFields_caps hcaps] at hmem
        obtain rfl : f = .feeCap := by
          rcases List.mem_cons.1 hmem with rfl | hfee
          · exact absurd htip (Nat.not_le.2 hlt)
          · exact List.mem_singleton.1 hfee
        rw [bumpFees_caps hcaps, raised_of_le htip, raised_of_lt hlt]
        rfl
    · have hfields : feeFields t.type = [] := (if_neg hprice).trans (if_neg hcaps)
      rw [excess?, hfields] at h
      cases h

/-- An error says that a transaction has no fees to be raised, or names the first fee that would get
    above its maximum. -/
theorem fault_of_error {e : DeliveryError} (h : bumpFees t b = .error e) :
    (feeFields t.type = [] ∧ e = .configuration (.irreplaceable t.type)) ∨
    ∃ f, b.excess? t = some f ∧
      e = .configuration (.aboveMaximum f (b.raise t f) (b.maximum f)) := by
  cases refuses_of_error h with
  | irreplaceable hfields => exact .inl ⟨hfields, rfl⟩
  | @aboveMaximum g hg hlt =>
    have hsome : (b.excess? t).isSome := List.find?_isSome.2 ⟨g, hg, decide_eq_true hlt⟩
    obtain ⟨f, hf⟩ := Option.isSome_iff_exists.1 hsome
    exact .inr ⟨f, hf, Except.error.inj (h.symm.trans (bumpFees_of_excess hf))⟩

theorem paid_le_raise (h : t.paid f ≤ weiMax) : t.paid f ≤ b.raise t f := le_addWei h (b.increment f)

end FeeBounds

/-- **Raising fees.**  It succeeds for the known types of transactions as long as no fee gets above its
    maximum, and then gives the one request in which each fee is raised by its increment, up to the
    maximum, and all else is as it was.  Otherwise the first fee above its maximum is complained about:
    of both caps, the tip. -/
theorem bumpFees_exact (t : Transaction) (b : FeeBounds) :
    ((∃ q, bumpFees t b = .ok q) ↔ t.type ≤ blobType ∧
      ∀ f ∈ feeFields t.type, addWei (t.paid f) (b.increment f) ≤ b.maximum f) ∧
    (∀ q, bumpFees t b = .ok q ↔ b.Raises t q) ∧
    (∀ q, bumpFees t b = .ok q → ∀ f ∈ feeFields t.type, t.paid f ≤ weiMax →
      ∃ fee, q.fee f = some fee ∧ t.paid f ≤ fee ∧ fee ≤ b.maximum f) ∧
    (∀ e, bumpFees t b = .error e →
      (blobType < t.type ∧ e = .configuration (.irreplaceable t.type)) ∨
      ∃ f, b.excess? t = some f ∧
        e = .configuration (.aboveMaximum f (addWei (t.paid f) (b.increment f)) (b.maximum f))) ∧
    (t.type = dynamicFeeType ∨ t.type = blobType →
      b.maximum .tipCap < addWei (t.paid .tipCap) (b.increment .tipCap) →
      b.maximum .feeCap < addWei (t.paid .feeCap) (b.increment .feeCap) →
      bumpFees t b = .error (.configuration (.aboveMaximum .tipCap
        (addWei (t.paid .tipCap) (b.increment .tipCap)) (b.maximum .tipCap)))) := by
  refine ⟨?_, fun q => FeeBounds.bumpFees_eq_ok_iff, ?_, ?_, ?_⟩
  · rw [FeeBounds.exists_ok_iff, feeFields_ne_nil_iff]
    exact Iff.rfl
  · intro q hok f hf hpaid
    have hraises := FeeBounds.raises_of_ok hok
    exact ⟨b.raise t f, hraises.fees f hf, FeeBounds.paid_le_raise hpaid, hraises.within f hf⟩
  · intro e herror
    rcases FeeBounds.fault_of_error herror with ⟨hfields, he⟩ | hexcess
    · refine .inl ⟨Nat.lt_of_not_le fun htype => ?_, he⟩
      exact feeFields_ne_nil_iff.2 htype hfields
    · exact .inr hexcess
  · intro hcaps htip _
    exact FeeBounds.bumpFees_of_excess (FeeBounds.excess_caps hcaps htip)

namespace FeeBounds

namespace Sample

/-- A transaction with a tip cap and a fee cap of 200. -/
def level (type : Nat) : Transaction :=
  ⟨.zero 32, type, none, { nonce := some 4, tipCap := some 200, feeCap := some 200 }⟩

/-- Bounds that raise the tip by 20 and the fee cap by 10. -/
def steep (maxTipCap maxFeeCap : Wei) : FeeBounds := ⟨1, 20000, 20, maxTipCap, 10, maxFeeCap⟩

end Sample

/-- The caps of a blob transaction, raised to 220 and 210; and what is said when neither may be. -/
theorem bumpFees_exact_blob :
    (∃ q, bumpFees (Sample.level blobType) (Sample.steep 2000 2000) = .ok q ∧
      q.fee .tipCap = some 220 ∧ q.fee .feeCap = some 210 ∧ q.nonce = some 4) ∧
    bumpFees (Sample.level blobType) (Sample.steep 210 205) =
      .error (.configuration (.aboveMaximum .tipCap 220 210)) := by
  obtain ⟨hsome, hone, -, -, -⟩ := bumpFees_exact (Sample.level blobType) (Sample.steep 2000 2000)
  obtain ⟨-, -, -, -, hboth⟩ := bumpFees_exact (Sample.level blobType) (Sample.steep 210 205)
  constructor
  · obtain ⟨q, hok⟩ := hsome.2 ⟨by decide, by decide⟩
    have hraises := (hone q).1 hok
    refine ⟨q, hok, hraises.fees .tipCap (by decide), hraises.fees .feeCap (by decide), ?_⟩
    exact congrArg TransactionRequest.nonce hraises.others
  · exact hboth (.inr rfl) (by decide) (by decide)

end FeeBounds

/-! ## The order of the caps -/

/-- A request with a tip cap that is not above its fee cap. -/
def TransactionRequest.Ordered (q : TransactionRequest) : Prop :=
  ∃ tipCap feeCap, q.tipCap = some tipCap ∧ q.feeCap = some feeCap ∧ tipCap ≤ feeCap

namespace FeeBounds

variable {b : FeeBounds} {t : Transaction} {q : TransactionRequest}

/-- Of every transaction with a tip cap that is not above its fee cap, the request that raises them is
    of that kind as well. -/
def KeepsOrder (b : FeeBounds) : Prop :=
  ∀ t q, t.type = dynamicFeeType ∨ t.type = blobType → t.paid .tipCap ≤ t.paid .feeCap →
    bumpFees t b = .ok q → q.Ordered

theorem Raises.ordered_iff (h : b.Raises t q) (hcaps : t.type = dynamicFeeType ∨ t.type = blobType) :
    q.Ordered ↔ b.raise t .tipCap ≤ b.raise t .feeCap := by
  have hfields := feeFields_caps hcaps
  have htip : q.tipCap = some (b.raise t .tipCap) := h.fees .tipCap (by simp [hfields])
  have hfee : q.feeCap = some (b.raise t .feeCap) := h.fees .feeCap (by simp [hfields])
  simp [TransactionRequest.Ordered, htip, hfee]

/-- Sums that are cut off stay in order when more is added to the larger one.  With bounds below what
    is added there are no such sums. -/
theorem min_add_le_min_add {most tip fee tipIncrement feeIncrement maxTip maxFee : Nat}
    (h : tip ≤ fee) (htip : tipIncrement ≤ most) (hfee : feeIncrement ≤ most)
    (hmaxTip : min most (tip + tipIncrement) ≤ maxTip)
    (hmaxFee : min most (fee + feeIncrement) ≤ maxFee)
    (hbounds : tipIncrement ≤ feeIncrement ∨ maxTip < tipIncrement ∨ maxFee < feeIncrement) :
    min most (tip + tipIncrement) ≤ min most (fee + feeIncrement) := by
  omega

/-- A transaction of which the node reports no fee. -/
def unpaid : Transaction := ⟨.zero 32, dynamicFeeType, none, {}⟩

theorem raise_unpaid {f : FeeField} (h : b.increment f ≤ weiMax) :
    b.raise unpaid f = b.increment f := by
  have hpaid : unpaid.paid f = 0 := by cases f <;> rfl
  rw [raise, hpaid, addWei, Nat.zero_add, Nat.min_eq_right h]

/-- **The order of the caps is kept** when the increment of the tip is not the larger one.  With any
    other bounds there is a transaction whose tip is raised above its fee cap, unless they let no caps
    be raised at all. -/
theorem keepsOrder_iff (htip : b.tipCapIncrement ≤ weiMax) (hfee : b.feeCapIncrement ≤ weiMax) :
    b.KeepsOrder ↔ b.tipCapIncrement ≤ b.feeCapIncrement ∨
      b.maxTipCap < b.tipCapIncrement ∨ b.maxFeeCap < b.feeCapIncrement := by
  constructor
  · -- what pays nothing is the first to get out of order, and the last to get above a maximum
    intro hkeeps
    refine Decidable.byContradiction fun hbounds => ?_
    simp only [not_or, Nat.not_le, Nat.not_lt] at hbounds
    obtain ⟨hincrement, hmaxTip, hmaxFee⟩ := hbounds
    have hraiseTip : b.raise unpaid .tipCap = b.tipCapIncrement := raise_unpaid htip
    have hraiseFee : b.raise unpaid .feeCap = b.feeCapIncrement := raise_unpaid hfee
    obtain ⟨q, hok⟩ : ∃ q, bumpFees unpaid b = .ok q := by
      refine exists_ok_iff.2 ⟨by decide, fun f hf => ?_⟩
      cases f with
      | gasPrice => exact absurd hf (by decide)
      | tipCap => exact Nat.le_trans (Nat.le_of_eq hraiseTip) hmaxTip
      | feeCap => exact Nat.le_trans (Nat.le_of_eq hraiseFee) hmaxFee
    have hordered := hkeeps unpaid q (.inl rfl) (Nat.le_refl 0) hok
    rw [(raises_of_ok hok).ordered_iff (.inl rfl), hraiseTip, hraiseFee] at hordered
    exact absurd hordered (Nat.not_le.2 hincrement)
  · intro hbounds t q hcaps hpaid hok
    have hraises := raises_of_ok hok
    have hfields := feeFields_caps hcaps
    have hmaxTip := hraises.within .tipCap (by simp [hfields])
    have hmaxFee := hraises.within .feeCap (by simp [hfields])
    exact (hraises.ordered_iff hcaps).2 (min_add_le_min_add hpaid htip hfee hmaxTip hmaxFee hbounds)

/-- Bounds that raise the tip by more than the fee cap do not keep the order, unless a maximum is lower
    still. -/
theorem keepsOrder_iff_steep :
    20 ≤ weiMax ∧ 10 ≤ weiMax ∧
      ¬ (Sample.steep 2000 2000).KeepsOrder ∧ (Sample.steep 2000 9).KeepsOrder := by
  have htip : 20 ≤ weiMax := by decide
  have hfee : 10 ≤ weiMax := by decide
  refine ⟨htip, hfee, fun hkeeps => ?_, ?_⟩
  · exact absurd ((keepsOrder_iff htip hfee).1 hkeeps) (by decide)
  · exact (keepsOrder_iff htip hfee).2 (by decide)

/-- **The tip gets above the fee cap.**  Both are 200 at first; then the tip is 220 and the fee cap 210,
    and nothing is complained about. -/
theorem bumpFees_out_of_order :
    (Sample.level dynamicFeeType).paid .tipCap ≤ (Sample.level dynamicFeeType).paid .feeCap ∧
    bumpFees (Sample.level dynamicFeeType) (Sample.steep 2000 2000) =
      .ok { (Sample.level dynamicFeeType).request with tipCap := some 220, feeCap := some 210 } ∧
    ¬ ({ (Sample.level dynamicFeeType).request with tipCap := some 220, feeCap := some 210 } :
      TransactionRequest).Ordered := by
  refine ⟨Nat.le_refl 200, rfl, ?_⟩
  rintro ⟨tipCap, feeCap, htip, hfee, hle⟩
  cases htip
  cases hfee
  exact absurd hle (by decide)

end FeeBounds

end PacketRelay
