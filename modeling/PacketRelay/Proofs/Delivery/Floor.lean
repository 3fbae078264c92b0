/-
  The floors of a replacement.

  A price that replaces a pending transaction has to lie by a percentage above it, and it has to keep
  within the limits of the settings.  Where the two are at odds, the limits win.

  * `Pricing.Reaches` says that a price comes up to its floors as far as the limits allow;
  * `legacyPricing_reaches` and `dynamicPricing_reaches`: the prices that are chosen do;
  * `gasPricing_reaches`: so does the price of every replacement, whatever the node answers;
  * `gasPricing_below_floor`: with a limit below the floor, a price below the floor is given out.
-/
import PacketRelay.Delivery.Pricing
import PacketRelay.Proofs.Scripted

namespace PacketRelay

open Session

/-! ## Floors and limits -/

/-- A price comes up to its floors; a tip or a fee cap may stay below its floor where it is the limit
    of the settings. -/
def Pricing.Reaches (floors : Floors) (s : DynamicFeeSettings) : Pricing → Prop
  | legacy gasPrice => floors.gasPrice ≤ gasPrice
  | dynamic tipCap feeCap =>
    (floors.tipCap ≤ tipCap ∨ s.tipLimit = some tipCap) ∧
      (floors.feeCap ≤ feeCap ∨ s.feeLimit = some feeCap)

/-- An amount that has been raised to a floor stays there, unless the limit is what it is cut to. -/
theorem floor_le_limited (limit : Option Wei) {floor a : Wei} (h : floor ≤ a) :
    floor ≤ limited limit a ∨ limit = some (limited limit a) := by
  cases limit with
  | none => exact .inl h
  | some l =>
    rcases Nat.le_total a l with ha | ha
    · left
      rwa [limited, Nat.min_eq_left ha]
    · right
      rw [limited, Nat.min_eq_right ha]

/-! ## Prices chosen -/

theorem legacyPricing_ok {pending : Option PendingTransaction} {floors : Floors} {suggested : Wei}
    {price : Pricing} (h : legacyPricing pending floors suggested = .ok price) :
    price = .legacy (max suggested floors.gasPrice) := by
  unfold legacyPricing at h
  split at h
  · cases h
  · exact (Except.ok.inj h).symm

theorem dynamicPricing_ok {s : DynamicFeeSettings} {pending : Option PendingTransaction}
    {floors : Floors} {reward baseFee : Wei} {price : Pricing}
    (h : dynamicPricing s pending floors reward baseFee = .ok price) :
    price = .dynamic (limited s.tipLimit (max (s.suggestedTip reward) floors.tipCap))
      (limited s.feeLimit (max (s.suggestedFee reward baseFee) floors.feeCap)) := by
  simp only [dynamicPricing] at h
  split at h
  · cases h
  · split at h
    · cases h
    · exact (Except.ok.inj h).symm

theorem legacyPricing_reaches {pending : Option PendingTransaction} {floors : Floors}
    {suggested : Wei} {price : Pricing} (s : DynamicFeeSettings)
    (h : legacyPricing pending floors suggested = .ok price) : price.Reaches floors s := by
  obtain rfl := legacyPricing_ok h
  exact Nat.le_max_right _ _

theorem dynamicPricing_reaches {s : DynamicFeeSettings} {pending : Option PendingTransaction}
    {floors : Floors} {reward baseFee : Wei} {price : Pricing}
    (h : dynamicPricing s pending floors reward baseFee = .ok price) : price.Reaches floors s := by
  obtain rfl := dynamicPricing_ok h
  exact ⟨floor_le_limited _ (Nat.le_max_right _ _), floor_le_limited _ (Nat.le_max_right _ _)⟩

/-- A price has been chosen from suggestions, with the floors of the transaction that it may
    replace. -/
inductive Pricing.Chosen (s : TransactionSettings) (pending : Option PendingTransaction)
    (price : Pricing) : Prop
  | legacy (hkind : s.kind = .legacy) (suggested : Wei) :
    legacyPricing pending (.replacing pending s.priceBump) suggested = .ok price →
    Chosen s pending price
  | dynamic (hkind : s.kind = .dynamic) (reward baseFee : Wei) :
    dynamicPricing s.dynamic pending (.replacing pending s.priceBump) reward baseFee = .ok price →
    Chosen s pending price

theorem Pricing.Chosen.reaches {s : TransactionSettings} {pending : Option PendingTransaction}
    {price : Pricing} (h : price.Chosen s pending) :
    price.Reaches (.replacing pending s.priceBump) s.dynamic := by
  cases h with
  | legacy _ suggested h => exact legacyPricing_reaches _ h
  | dynamic _ reward baseFee h => exact dynamicPricing_reaches h

/-! ## Prices of replacements -/

namespace Delivery

variable {σ : Type} [Node σ]

/-- The transaction to be replaced is found among those that the node reports. -/
theorem pendingAt_reported {token : CancelToken} {s : TransactionSettings} {sender : Address}
    {nonce bump : Nat} {x x' : Session σ} {pending : Option PendingTransaction}
    (hbump : s.priceBump = some bump)
    (h : run (pendingAt token s sender (some nonce)) x = (.ok pending, x')) :
    ∃ reported, (Node.reply (.pendingTransactions sender) x.peers).1 = .ok reported ∧
      pending = reported.find? fun t => t.nonce == nonce := by
  simp only [pendingAt, hbump] at h
  obtain ⟨answer, x₁, hask, h⟩ := run_bind_ok h
  exact ⟨answer, ask_ok (run_adapt_ok hask), (Except.ok.inj (congrArg Prod.fst h)).symm⟩

/-- The transaction to be replaced is the first one with the nonce that the node reports. -/
theorem pendingAt_ok {token : CancelToken} {s : TransactionSettings} {sender : Address}
    {nonce bump : Nat} {x x' : Session σ} {reported : List PendingTransaction}
    {pending : Option PendingTransaction} (hbump : s.priceBump = some bump)
    (hreported : (Node.reply (.pendingTransactions sender) x.peers).1 = .ok reported)
    (h : run (pendingAt token s sender (some nonce)) x = (.ok pending, x')) :
    pending = reported.find? fun t => t.nonce == nonce := by
  obtain ⟨answer, hanswer, hpending⟩ := pendingAt_reported hbump h
  rwa [Except.ok.inj (hanswer.symm.trans hreported)] at hpending

/-- Where replacements need not be dearer, nothing is to be replaced. -/
theorem pendingAt_eq_none {token : CancelToken} {s : TransactionSettings} {sender : Address}
    {nonce : Option Nat} {x x' : Session σ} {pending : Option PendingTransaction}
    (hbump : s.priceBump = none)
    (h : run (pendingAt token s sender nonce) x = (.ok pending, x')) : pending = none := by
  simp only [pendingAt, hbump, run_pure] at h
  exact (Except.ok.inj (congrArg Prod.fst h)).symm

theorem gasPricing_eq (token : CancelToken) {s : TransactionSettings} (sender : Address)
    (nonce : Option Nat) (hkind : s.kind = .dynamic) :
    gasPricing (σ := σ) token s sender nonce =
      pendingAt token s sender nonce >>= fun pending =>
        sampleFees token s.dynamic >>= fun (reward, baseFee) =>
          lift (dynamicPricing s.dynamic pending (.replacing pending s.priceBump) reward baseFee) := by
  simp only [gasPricing, hkind]

/-- Every price is chosen with the floors of what it replaces. -/
theorem run_gasPricing_chosen {token : CancelToken} {s : TransactionSettings} {sender : Address}
    {nonce : Option Nat} {x x' : Session σ} {price : Pricing}
    (h : run (gasPricing token s sender nonce) x = (.ok price, x')) :
    ∃ pending x₁, run (pendingAt token s sender nonce) x = (.ok pending, x₁) ∧
      price.Chosen s pending := by
  obtain ⟨pending, x₁, hpending, h⟩ := run_bind_ok h
  refine ⟨pending, x₁, hpending, ?_⟩
  split at h
  case h_1 hkind =>
    obtain ⟨suggested, x₂, -, h⟩ := run_bind_ok h
    exact .legacy hkind suggested (congrArg Prod.fst h)
  case h_2 hkind =>
    obtain ⟨⟨reward, baseFee⟩, x₂, -, h⟩ := run_bind_ok h
    exact .dynamic hkind reward baseFee (congrArg Prod.fst h)

/-- Every price comes up to the floors of what it replaces. -/
theorem run_gasPricing_ok {token : CancelToken} {s : TransactionSettings} {sender : Address}
    {nonce : Option Nat} {x x' : Session σ} {price : Pricing}
    (h : run (gasPricing token s sender nonce) x = (.ok price, x')) :
    ∃ pending x₁, run (pendingAt token s sender nonce) x = (.ok pending, x₁) ∧
      price.Reaches (.replacing pending s.priceBump) s.dynamic := by
  obtain ⟨pending, x₁, hpending, hchosen⟩ := run_gasPricing_chosen h
  exact ⟨pending, x₁, hpending, hchosen.reaches⟩

/-- **The price of a replacement** lies by the percentage of the settings above the pending
    transaction.  A tip or a fee cap is lower only where it is the limit of the settings. -/
theorem gasPricing_reaches {token : CancelToken} {s : TransactionSettings} {sender : Address}
    {nonce bump : Nat} {x : Session σ} {reported : List PendingTransaction}
    {t : PendingTransaction} {price : Pricing} (hbump : s.priceBump = some bump)
    (hreported : (Node.reply (.pendingTransactions sender) x.peers).1 = .ok reported)
    (ht : reported.find? (fun t => t.nonce == nonce) = some t)
    (h : (run (gasPricing token s sender (some nonce)) x).1 = .ok price) :
    price.Reaches (.above t bump) s.dynamic := by
  obtain ⟨pending, x₁, hpending, hreaches⟩ := run_gasPricing_ok (Prod.ext h rfl)
  rwa [pendingAt_ok hbump hreported hpending, ht, hbump] at hreaches

/-- When the fees of a block are given, they are what a price with dynamic fees is chosen from. -/
theorem gasPricing_of_gives {token : CancelToken} {s : TransactionSettings} {sender : Address}
    {nonce : Option Nat} {x : Session σ} {pending : Option PendingTransaction}
    {reward baseFee : Wei} (hkind : s.kind = .dynamic)
    (hpending : Gives (pendingAt token s sender nonce) x pending)
    (hfees : ∀ x', x'.peers = x.peers →
      Gives (sampleFees token s.dynamic) x' (reward, baseFee)) :
    (run (gasPricing token s sender nonce) x).1 =
      dynamicPricing s.dynamic pending (.replacing pending s.priceBump) reward baseFee := by
  obtain ⟨x₁, hr₁, hp₁, -⟩ := hpending
  obtain ⟨x₂, hr₂, -, -⟩ := hfees x₁ hp₁
  rw [gasPricing_eq _ _ _ hkind, run_bind_of_ok hr₁, run_bind_of_ok hr₂]
  rfl

namespace Sample

/-- A transaction with dynamic fees waits. -/
def waiting : PendingTransaction := ⟨7, .dynamic 200 300, dynamicFeeType⟩

/-- A node whose last block has rewarded a tip of 100 and that has the transaction in its pool. -/
def peers : ScriptedPeers where
  node :=
    { blockNumber := 10
      gasPrice := 310
      feeHistory := [(10, ⟨some [[100]], [1000, 1000]⟩)]
      pending := [waiting] }

/-- A session that begins with these peers. -/
def session : Session ScriptedPeers := ⟨peers, 0, [], ⟨.memory [], 1, 1⟩, false⟩

/-- Replacements are dearer by a quarter. -/
def settings (kind : PricingKind) (tipLimit : Option Wei) : TransactionSettings :=
  { TransactionSettings.default with
    kind
    priceBump := some 25
    dynamic := { DynamicFeeSettings.default with tipLimit } }

/-- The price of a replacement of the waiting transaction. -/
abbrev price (s : TransactionSettings) : Except DeliveryError Pricing :=
  (run (gasPricing .never s (.zero 20) (some 7)) session).1

theorem prompt_peers : peers.Prompt := ⟨by simp [peers], rfl, rfl, rfl, rfl⟩

theorem gives_fees (s : DynamicFeeSettings) {x : Session ScriptedPeers} (hx : x.peers = peers) :
    Gives (sampleFees .never s) x (100, 1000) := by
  have hblock : Gives (query .never .blockNumber : Run _ DeliveryError Nat) x (10 : Nat) :=
    .adapt _ (gives_ask (hx ▸ prompt_peers) (by rw [hx]; rfl))
  refine .bind hblock fun x₁ hx₁ _ => ?_
  have hx₁ := hx₁.trans hx
  have hhistory :
      Gives (query .never (.feeHistory 1 10 [s.percentile]) : Run _ DeliveryError FeeHistory) x₁
        (⟨some [[100]], [1000, 1000]⟩ : FeeHistory) :=
    .adapt _ (gives_ask (hx₁ ▸ prompt_peers) (by rw [hx₁]; rfl))
  unfold sampleFrom
  exact .bind hhistory fun x₂ _ _ => .pure _ x₂

theorem price_dynamic (tipLimit : Option Wei) : price (settings .dynamic tipLimit) =
    dynamicPricing (settings .dynamic tipLimit).dynamic (some waiting) (.above waiting 25)
      100 1000 := by
  have hpending : Gives (pendingAt .never (settings .dynamic tipLimit) (.zero 20) (some 7))
      session (some waiting) :=
    .bind (.adapt _ (gives_ask prompt_peers rfl)) fun x _ _ => .pure _ x
  have hfees : ∀ x : Session ScriptedPeers, x.peers = session.peers →
      Gives (sampleFees .never (settings .dynamic tipLimit).dynamic) x (100, 1000) :=
    fun _ => gives_fees _
  have hprice := gasPricing_of_gives (s := settings .dynamic tipLimit) rfl hpending hfees
  exact hprice

theorem price_unlimited : price (settings .dynamic none) = .ok (.dynamic 250 1100) := by
  rw [price_dynamic]
  rfl

theorem price_limited : price (settings .dynamic (some 220)) = .ok (.dynamic 220 1100) := by
  rw [price_dynamic]
  rfl

end Sample

/-- The prices that replace the waiting transaction. -/
theorem gasPricing_reaches_waiting :
    Sample.price (Sample.settings .legacy none) = .ok (.legacy 375) ∧
    Sample.price (Sample.settings .dynamic none) = .ok (.dynamic 250 1100) ∧
    (Pricing.legacy 375).Reaches (.above Sample.waiting 25)
      (Sample.settings .legacy none).dynamic ∧
    (Pricing.dynamic 250 1100).Reaches (.above Sample.waiting 25)
      (Sample.settings .dynamic none).dynamic := by
  have hreported : (Node.reply (.pendingTransactions (.zero 20)) Sample.session.peers).1 =
      .ok [Sample.waiting] := rfl
  have hlegacy : Sample.price (Sample.settings .legacy none) = .ok (.legacy 375) := by rfl
  refine ⟨hlegacy, Sample.price_unlimited, ?_, ?_⟩
  · exact gasPricing_reaches (t := Sample.waiting) rfl hreported rfl hlegacy
  · exact gasPricing_reaches (t := Sample.waiting) rfl hreported rfl Sample.price_unlimited

/-- **The limits win.** A replacement of the waiting transaction has to pay a tip of 250; with a limit
    of 220 it is not refused but pays 220. -/
theorem gasPricing_below_floor :
    (Node.reply (.pendingTransactions (.zero 20)) Sample.session.peers).1 =
      .ok [Sample.waiting] ∧
    (Sample.settings .dynamic (some 220)).priceBump = some 25 ∧
    Sample.price (Sample.settings .dynamic (some 220)) = .ok (.dynamic 220 1100) ∧
    220 < bumpByPercent Sample.waiting.tipCap 25 :=
  ⟨rfl, rfl, Sample.price_limited, by decide⟩

end Delivery

end PacketRelay
