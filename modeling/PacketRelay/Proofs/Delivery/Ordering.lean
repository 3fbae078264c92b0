/-
  The order of tip and fee cap.

  A transaction with dynamic fees is worth nothing when its tip is above its fee cap.  What is
  suggested is in order, and so is what lies by a percentage above a transaction in the pool, so only
  the limits of the settings can break the order.

  * `suggestedTip_le_suggestedFee` and `Floors.tipCap_le_feeCap_replacing`: suggestions and floors are
    in order;
  * `feeCap_lt_tipCap_iff`: prices in order are only put out of order by a limit of the fee cap;
  * `gasPricing_ordering`: so the pricing of a transaction fails exactly where such a limit is below the
    tip, and otherwise gives caps in order and within their limits.
-/
import PacketRelay.Proofs.Delivery.Floor
import PacketRelay.Proofs.Fee

namespace PacketRelay

open Session

/-! ## Amounts in order -/

/-- Fees of a transaction in the pool, with a tip that is not above the fee cap. -/
def PendingFees.Ordered : PendingFees → Prop
  | gasPrice price => price ≤ weiMax
  | dynamic tipCap feeCap => tipCap ≤ feeCap ∧ feeCap ≤ weiMax

namespace PendingTransaction

variable {t : PendingTransaction}

theorem tipCap_le_feeCap (h : t.fees.Ordered) : t.tipCap ≤ t.feeCap := by
  unfold tipCap feeCap gasPrice
  cases hfees : t.fees with
  | gasPrice price => exact Nat.le_refl price
  | dynamic tip fee =>
    rw [hfees] at h
    exact h.1

theorem feeCap_le_weiMax (h : t.fees.Ordered) : t.feeCap ≤ weiMax := by
  unfold feeCap gasPrice
  cases hfees : t.fees with
  | gasPrice price =>
    rw [hfees] at h
    exact h
  | dynamic tip fee =>
    rw [hfees] at h
    exact h.2

end PendingTransaction

/-- What lies by a percentage above a transaction is in order when its fees are. -/
theorem Floors.tipCap_le_feeCap_above {t : PendingTransaction} {percent : Nat} (h : t.fees.Ordered)
    (hpercent : percent ≤ countMax) : (above t percent).tipCap ≤ (above t percent).feeCap :=
  bumpByPercent_mono (t.tipCap_le_feeCap h) (t.feeCap_le_weiMax h) (Nat.le_refl _) hpercent

theorem Floors.tipCap_le_feeCap_replacing {pending : Option PendingTransaction} {bump : Option Nat}
    (hpending : ∀ t ∈ pending, t.fees.Ordered) (hbump : ∀ percent ∈ bump, percent ≤ countMax) :
    (replacing pending bump).tipCap ≤ (replacing pending bump).feeCap := by
  cases pending with
  | none => exact Nat.le_refl 0
  | some t =>
    cases bump with
    | none => exact Nat.le_refl 0
    | some percent => exact tipCap_le_feeCap_above (hpending t rfl) (hbump percent rfl)

/-! ## Limits -/

theorem limited_le_self (limit : Option Wei) (a : Wei) : limited limit a ≤ a := by
  cases limit with
  | none => exact Nat.le_refl a
  | some l => exact Nat.min_le_left a l

theorem limited_le {limit : Option Wei} {l : Wei} (h : limit = some l) (a : Wei) :
    limited limit a ≤ l := by
  subst h
  exact Nat.min_le_right a l

/-- Prices that are in order are only put out of order by a limit of the fee cap, one below the tip
    cap. -/
theorem feeCap_lt_tipCap_iff {tipLimit feeLimit : Option Wei} {tip fee : Wei} (h : tip ≤ fee) :
    limited feeLimit fee < limited tipLimit tip ↔
      ∃ l, feeLimit = some l ∧ l < limited tipLimit tip := by
  have htip : limited tipLimit tip ≤ fee := Nat.le_trans (limited_le_self tipLimit tip) h
  cases feeLimit with
  | none =>
    constructor
    · intro hlt
      exact absurd htip (Nat.not_le.2 hlt)
    · rintro ⟨l, hl, -⟩
      cases hl
  | some l =>
    constructor
    · intro hlt
      refine ⟨l, rfl, Nat.lt_of_not_le fun hl => ?_⟩
      exact absurd (Nat.le_min.2 ⟨htip, hl⟩) (Nat.not_le.2 hlt)
    · rintro ⟨l', hl', hlt⟩
      cases hl'
      exact Nat.lt_of_le_of_lt (Nat.min_le_right fee l) hlt

/-! ## Prices chosen -/

namespace DynamicFeeSettings

variable {s : DynamicFeeSettings} {pending : Option PendingTransaction} {reward baseFee : Wei}

theorem suggestedTip_le_suggestedFee (s : DynamicFeeSettings) (reward baseFee : Wei) :
    s.suggestedTip reward ≤ s.suggestedFee reward baseFee :=
  le_addWei (s.tipRate.apply_le_weiMax reward) _

/-- A transaction in the pool pays both a higher tip and a higher fee cap than what is suggested. -/
def Stale (s : DynamicFeeSettings) (pending : Option PendingTransaction) (reward baseFee : Wei) :
    Prop :=
  ∃ t ∈ pending, s.suggestedTip reward < t.tipCap ∧ s.suggestedFee reward baseFee < t.feeCap

/-- The tip cap before it is compared with the fee cap. -/
def tipCapFor (s : DynamicFeeSettings) (floors : Floors) (reward : Wei) : Wei :=
  limited s.tipLimit (max (s.suggestedTip reward) floors.tipCap)

/-- The fee cap before it is compared with the tip cap. -/
def feeCapFor (s : DynamicFeeSettings) (floors : Floors) (reward baseFee : Wei) : Wei :=
  limited s.feeLimit (max (s.suggestedFee reward baseFee) floors.feeCap)

theorem dynamicPricing_of_fresh (h : ¬ s.Stale pending reward baseFee) (floors : Floors) :
    dynamicPricing s pending floors reward baseFee =
      if s.feeCapFor floors reward baseFee < s.tipCapFor floors reward then
        .error (.configuration (.feeCapBelowTip (s.feeCapFor floors reward baseFee)
          (s.tipCapFor floors reward)))
      else .ok (.dynamic (s.tipCapFor floors reward) (s.feeCapFor floors reward baseFee)) := by
  have hfresh : (pending.filter fun t =>
      s.suggestedTip reward < t.tipCap && s.suggestedFee reward baseFee < t.feeCap) = none := by
    rw [Option.filter_eq_none_iff]
    intro t ht hlt
    simp only [Bool.and_eq_true, decide_eq_true_eq] at hlt
    exact h ⟨t, ht, hlt⟩
  simp only [dynamicPricing, hfresh]
  rfl

/-- The limit of the fee cap leaves no room for the tip cap. -/
def FeeLimitBelowTip (s : DynamicFeeSettings) (floors : Floors) (reward : Wei) : Prop :=
  ∃ limit ∈ s.feeLimit, limit < s.tipCapFor floors reward

theorem feeCapFor_lt_tipCapFor_iff {floors : Floors} (hfloors : floors.tipCap ≤ floors.feeCap)
    (s : DynamicFeeSettings) (reward baseFee : Wei) :
    s.feeCapFor floors reward baseFee < s.tipCapFor floors reward ↔
      s.FeeLimitBelowTip floors reward := by
  have htip := s.suggestedTip_le_suggestedFee reward baseFee
  refine feeCap_lt_tipCap_iff (Nat.max_le.2 ⟨?_, ?_⟩)
  · exact Nat.le_trans htip (Nat.le_max_left ..)
  · exact Nat.le_trans hfloors (Nat.le_max_right ..)

/-- A price with its caps in order and within their limits. -/
def Admits (s : DynamicFeeSettings) : Pricing → Prop
  | .legacy _ => False
  | .dynamic tipCap feeCap =>
    tipCap ≤ feeCap ∧ (∀ limit ∈ s.tipLimit, tipCap ≤ limit) ∧ ∀ limit ∈ s.feeLimit, feeCap ≤ limit

/-- With floors in order, a fresh suggestion is priced as the settings admit, unless the limit of the
    fee cap leaves no room for the tip cap. -/
theorem dynamicPricing_cases (hfresh : ¬ s.Stale pending reward baseFee) {floors : Floors}
    (hfloors : floors.tipCap ≤ floors.feeCap) :
    (s.FeeLimitBelowTip floors reward ∧ ∃ feeCap tipCap,
      dynamicPricing s pending floors reward baseFee =
        .error (.configuration (.feeCapBelowTip feeCap tipCap))) ∨
    (¬ s.FeeLimitBelowTip floors reward ∧ ∃ price,
      dynamicPricing s pending floors reward baseFee = .ok price ∧ s.Admits price) := by
  rw [dynamicPricing_of_fresh hfresh, ← feeCapFor_lt_tipCapFor_iff hfloors s reward baseFee]
  by_cases hlt : s.feeCapFor floors reward baseFee < s.tipCapFor floors reward
  · left
    rw [if_pos hlt]
    exact ⟨hlt, _, _, rfl⟩
  · right
    rw [if_neg hlt]
    refine ⟨hlt, _, rfl, Nat.le_of_not_lt hlt, ?_, ?_⟩
    · intro limit hlimit
      exact limited_le hlimit _
    · intro limit hlimit
      exact limited_le hlimit _

/-- Without a limit of the fee cap, nothing is wrong with the settings. -/
theorem dynamicPricing_unlimited (hlimit : s.feeLimit = none) {floors : Floors}
    (hfloors : floors.tipCap ≤ floors.feeCap) (fault : DeliveryFault) :
    dynamicPricing s pending floors reward baseFee ≠ .error (.configuration fault) := by
  intro h
  by_cases hstale : s.Stale pending reward baseFee
  · obtain ⟨t, ht, htip, hfee⟩ := hstale
    obtain rfl : pending = some t := ht
    simp [dynamicPricing, Option.filter, htip, hfee] at h
  · rcases dynamicPricing_cases hstale hfloors with ⟨⟨limit, hsome, -⟩, -⟩ | ⟨-, price, hok, -⟩
    · rw [hlimit] at hsome
      cases hsome
    · cases h.symm.trans hok

end DynamicFeeSettings

/-! ## Faults of the settings -/

namespace Delivery

variable {σ : Type}

/-- An operation that finds no fault with the settings or the request. -/
def Faultless {α : Type} (x : Run σ DeliveryError α) : Prop :=
  ∀ y fault, (run x y).1 ≠ .error (.configuration fault)

namespace Faultless

variable {α β : Type}

theorem pure (a : α) : Faultless (pure a : Run σ DeliveryError α) := by
  intro y fault h
  cases h

/-- A fault that is found by two operations in a row is found by the second one, if the first one finds
    none. -/
theorem fault_of_bind {x : Run σ DeliveryError α} {f : α → Run σ DeliveryError β} {y : Session σ}
    {fault : DeliveryFault} (hx : Faultless x)
    (h : (run (x >>= f) y).1 = .error (.configuration fault)) :
    ∃ a y₁, run x y = (.ok a, y₁) ∧ (run (f a) y₁).1 = .error (.configuration fault) := by
  rcases run_bind_error (Prod.ext h rfl) with hr | ⟨a, y₁, hr, hfault⟩
  · exact absurd (congrArg Prod.fst hr) (hx y fault)
  · exact ⟨a, y₁, hr, congrArg Prod.fst hfault⟩

theorem bind {x : Run σ DeliveryError α} {f : α → Run σ DeliveryError β} (hx : Faultless x)
    (hf : ∀ a, Faultless (f a)) : Faultless (x >>= f) := by
  intro y fault h
  obtain ⟨a, y₁, -, hfault⟩ := hx.fault_of_bind h
  exact hf a y₁ fault hfault

end Faultless

variable [Node σ]

/-- What a query fails with is a failure of the node, or the token has fired. -/
theorem run_query_error {token : CancelToken} {q : Query} {y : Session σ} {e : DeliveryError}
    (h : (run (query token q) y).1 = .error e) : ∃ e' : NodeError, e = .ofNode e' := by
  rw [query, run_adapt] at h
  cases hr : (run (ask token q) y).1 with
  | error e' =>
    rw [hr] at h
    exact ⟨e', (Except.error.inj h).symm⟩
  | ok a =>
    rw [hr] at h
    cases h

/-- So does the search for a pending transaction fail. -/
theorem run_pendingAt_error {token : CancelToken} {s : TransactionSettings} {sender : Address}
    {nonce : Option Nat} {y : Session σ} {e : DeliveryError}
    (h : (run (pendingAt token s sender nonce) y).1 = .error e) : ∃ e' : NodeError, e = .ofNode e' := by
  unfold pendingAt at h
  split at h
  · rcases run_bind_error (Prod.ext h rfl) with hquery | ⟨reported, y₁, -, hrest⟩
    · exact run_query_error (congrArg Prod.fst hquery)
    · cases hrest
  · cases h

/-- What the node fails with is no fault of the settings. -/
theorem faultless_query (token : CancelToken) (q : Query) :
    Faultless (query token q : Run σ DeliveryError q.Answer) := by
  intro y fault h
  obtain ⟨e, he⟩ := run_query_error h
  cases e <;> cases he

theorem faultless_pendingAt (token : CancelToken) (s : TransactionSettings) (sender : Address)
    (nonce : Option Nat) : Faultless (σ := σ) (pendingAt token s sender nonce) := by
  intro y fault h
  obtain ⟨e, he⟩ := run_pendingAt_error h
  cases e <;> cases he

theorem faultless_sampleFrom (token : CancelToken) (s : DynamicFeeSettings) (left block : Nat) :
    Faultless (σ := σ) (sampleFrom token s left block) := by
  induction left generalizing block with
  | zero =>
    unfold sampleFrom
    refine .bind (faultless_query token _) fun history => ?_
    cases history.sample? with
    | some sample => exact .pure sample
    | none =>
      intro y fault h
      cases h
  | succ left ih =>
    unfold sampleFrom
    refine .bind (faultless_query token _) fun history => ?_
    cases history.sample? with
    | some sample => exact .pure sample
    | none =>
      cases block with
      | zero =>
        intro y fault h
        cases h
      | succ block => exact ih block

theorem faultless_sampleFees (token : CancelToken) (s : DynamicFeeSettings) :
    Faultless (σ := σ) (sampleFees token s) :=
  .bind (faultless_query token _) fun latest => faultless_sampleFrom token s _ latest

/-! ## Prices with dynamic fees -/

variable {token : CancelToken} {s : TransactionSettings} {sender : Address} {nonce : Option Nat}
  {x x₁ x₂ : Session σ} {pending : Option PendingTransaction} {reward baseFee : Wei}

theorem run_gasPricing_dynamic (hkind : s.kind = .dynamic)
    (hpending : run (pendingAt token s sender nonce) x = (.ok pending, x₁))
    (hfees : run (sampleFees token s.dynamic) x₁ = (.ok (reward, baseFee), x₂)) :
    run (gasPricing token s sender nonce) x =
      (dynamicPricing s.dynamic pending (.replacing pending s.priceBump) reward baseFee, x₂) := by
  rw [gasPricing_eq _ _ _ hkind, run_bind_of_ok hpending, run_bind_of_ok hfees]
  rfl

/-- **The order of the caps** of a price.  Once fees have been sampled and are not stale, pricing fails
    for the order exactly where the limit of the fee cap is below the tip cap, and otherwise gives caps
    in order and within their limits.  Without a limit of the fee cap, it never finds a fault. -/
theorem gasPricing_ordering (token : CancelToken) (sender : Address) (nonce : Option Nat)
    (x : Session σ) (hkind : s.kind = .dynamic)
    (hbump : ∀ percent ∈ s.priceBump, percent ≤ countMax)
    (hpool : ∀ t x₁, run (pendingAt token s sender nonce) x = (.ok (some t), x₁) →
      t.fees.Ordered) :
    let out := (run (gasPricing token s sender nonce) x).1
    (∀ pending x₁ reward baseFee x₂,
      run (pendingAt token s sender nonce) x = (.ok pending, x₁) →
      run (sampleFees token s.dynamic) x₁ = (.ok (reward, baseFee), x₂) →
      ¬ s.dynamic.Stale pending reward baseFee →
      let below := s.dynamic.FeeLimitBelowTip (.replacing pending s.priceBump) reward
      ((∃ feeCap tipCap, out = .error (.configuration (.feeCapBelowTip feeCap tipCap))) ↔ below) ∧
      (¬ below → ∃ price, out = .ok price ∧ s.dynamic.Admits price)) ∧
    (s.dynamic.feeLimit = none → ∀ fault, out ≠ .error (.configuration fault)) := by
  intro out
  have hfloors {pending : Option PendingTransaction} {x₁ : Session σ}
      (hpending : run (pendingAt token s sender nonce) x = (.ok pending, x₁)) :
      (Floors.replacing pending s.priceBump).tipCap ≤
        (Floors.replacing pending s.priceBump).feeCap := by
    refine Floors.tipCap_le_feeCap_replacing (fun t ht => ?_) hbump
    obtain rfl : pending = some t := ht
    exact hpool t x₁ hpending
  constructor
  · intro pending x₁ reward baseFee x₂ hpending hfees hfresh below
    have hout : out = dynamicPricing s.dynamic pending (.replacing pending s.priceBump) reward
        baseFee := congrArg Prod.fst (run_gasPricing_dynamic hkind hpending hfees)
    rw [hout]
    rcases DynamicFeeSettings.dynamicPricing_cases hfresh (hfloors hpending) with
      ⟨hbelow, herror⟩ | ⟨hroom, price, hok, hadmits⟩
    · exact ⟨iff_of_true herror hbelow, fun hroom => absurd hbelow hroom⟩
    · refine ⟨iff_of_false ?_ hroom, fun _ => ⟨price, hok, hadmits⟩⟩
      rintro ⟨feeCap, tipCap, herror⟩
      cases hok.symm.trans herror
  · intro hlimit fault hout
    obtain ⟨pending, x₁, hpending, hpriced⟩ :=
      (faultless_pendingAt token s sender nonce).fault_of_bind hout
    rw [hkind] at hpriced
    obtain ⟨⟨reward, baseFee⟩, x₂, -, hchosen⟩ :=
      (faultless_sampleFees token s.dynamic).fault_of_bind hpriced
    exact DynamicFeeSettings.dynamicPricing_unlimited hlimit (hfloors hpending) fault hchosen

namespace Sample

/-- Replacements are dearer by a quarter, and the fee cap has a limit. -/
def capped (limit : Wei) : TransactionSettings :=
  { settings .dynamic none with
    dynamic := { (settings .dynamic none).dynamic with feeLimit := some limit } }

theorem gives_waiting (limit : Wei) :
    Gives (pendingAt .never (capped limit) (.zero 20) (some 7)) session (some waiting) :=
  .bind (.adapt _ (gives_ask prompt_peers rfl)) fun x _ _ => .pure _ x

theorem not_stale_waiting (limit : Wei) :
    ¬ (capped limit).dynamic.Stale (some waiting) 100 1000 := by
  rintro ⟨t, ⟨⟩, -, hfee⟩
  have hsuggested : (capped limit).dynamic.suggestedFee 100 1000 =
      DynamicFeeSettings.default.suggestedFee 100 1000 := rfl
  rw [hsuggested] at hfee
  exact absurd hfee (by decide)

end Sample

/-- The replacement of the waiting transaction has to pay a tip of 250.  A limit of 240 for the fee cap
    leaves no room for that, a limit of 250 does. -/
theorem gasPricing_ordering_waiting :
    25 ≤ countMax ∧ Sample.waiting.fees.Ordered ∧
    (∃ feeCap tipCap, Sample.price (Sample.capped 240) =
      .error (.configuration (.feeCapBelowTip feeCap tipCap))) ∧
    ∃ price, Sample.price (Sample.capped 250) = .ok price ∧
      (Sample.capped 250).dynamic.Admits price := by
  have hbump : 25 ≤ countMax := by decide
  have hordered : Sample.waiting.fees.Ordered := ⟨by decide, by decide⟩
  have hpool (limit : Wei) : ∀ t x₁, run (pendingAt .never (Sample.capped limit) (.zero 20) (some 7))
      Sample.session = (.ok (some t), x₁) → t.fees.Ordered := by
    intro t x₁ h
    obtain ⟨x₂, hr, -, -⟩ := Sample.gives_waiting limit
    cases h.symm.trans hr
    exact hordered
  have hpriced (limit : Wei) := gasPricing_ordering (s := Sample.capped limit) .never (.zero 20)
    (some 7) Sample.session rfl (by rintro percent ⟨⟩; exact hbump) (hpool limit)
  have hlimited (limit : Wei) :
      let below := (Sample.capped limit).dynamic.FeeLimitBelowTip (.above Sample.waiting 25) 100
      ((∃ feeCap tipCap, Sample.price (Sample.capped limit) =
        .error (.configuration (.feeCapBelowTip feeCap tipCap))) ↔ below) ∧
      (¬ below → ∃ price, Sample.price (Sample.capped limit) = .ok price ∧
        (Sample.capped limit).dynamic.Admits price) := by
    obtain ⟨x₁, hpending, hpeers, -⟩ := Sample.gives_waiting limit
    obtain ⟨x₂, hfees, -, -⟩ := Sample.gives_fees (Sample.capped limit).dynamic hpeers
    exact (hpriced limit).1 _ _ _ _ _ hpending hfees (Sample.not_stale_waiting limit)
  refine ⟨hbump, hordered, (hlimited 240).1.2 ⟨240, rfl, by decide⟩, (hlimited 250).2 ?_⟩
  rintro ⟨limit, ⟨⟩, hlt⟩
  exact absurd hlt (by decide)

end Delivery

end PacketRelay
