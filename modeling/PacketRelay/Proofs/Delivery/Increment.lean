/-
  The fees of a replacement.

  A new transaction that replaces a pending one is priced by a percentage above it.  A watch does not
  look at the percentage: it raises the fees by fixed increments, and gives up at fixed maxima.

  * `FeeBounds.Raises` and `FeeBounds.Refuses` say what raising the fees of a transaction comes to,
    and `Sender.Withholds` why nothing is sent;
  * `TransactionRequest.Outbids` is the rule of the percentage;
  * `replaceStuck_priceBump`: whatever the percentage is, a watch does the same;
  * `replaceStuck_raises`: what a watch broadcasts is raised by the increments, and it keeps the rule
    exactly where the increments come up to the percentage;
  * `replaceStuck_below_bump`: small increments break the rule.
-/
import PacketRelay.Config.Load
import PacketRelay.Proofs.Delivery.Watch
import PacketRelay.Proofs.Fee

namespace PacketRelay

open Session

/-! ## Fees by field -/

/-- The fees that a transaction of a type pays. -/
def feeFields (type : Nat) : List FeeField :=
  if type = legacyType ∨ type = accessListType then [.gasPrice]
  else if type = dynamicFeeType ∨ type = blobType then [.tipCap, .feeCap]
  else []

/-- A fee that a request offers, if it names one. -/
def TransactionRequest.fee (q : TransactionRequest) : FeeField → Option Wei
  | .gasPrice => q.gasPrice
  | .tipCap => q.tipCap
  | .feeCap => q.feeCap

/-- What a transaction pays; what the node does not report counts as nothing. -/
def Transaction.paid (t : Transaction) (f : FeeField) : Wei := (t.request.fee f).getD 0

namespace FeeBounds

/-- By how much a fee is raised. -/
def increment (b : FeeBounds) : FeeField → Wei
  | .gasPrice => b.gasPriceIncrement
  | .tipCap => b.tipCapIncrement
  | .feeCap => b.feeCapIncrement

/-- Above what a fee is not raised. -/
def maximum (b : FeeBounds) : FeeField → Wei
  | .gasPrice => b.maxGasPrice
  | .tipCap => b.maxTipCap
  | .feeCap => b.maxFeeCap

/-- What replaces a fee of a transaction. -/
def raise (b : FeeBounds) (t : Transaction) (f : FeeField) : Wei := addWei (t.paid f) (b.increment f)

/-- A request has the fees of a transaction raised by the increments, none above its maximum, and all
    else from the transaction. -/
structure Raises (b : FeeBounds) (t : Transaction) (q : TransactionRequest) : Prop where
  replaceable : feeFields t.type ≠ []
  fees : ∀ f ∈ feeFields t.type, q.fee f = some (b.raise t f)
  within : ∀ f ∈ feeFields t.type, b.raise t f ≤ b.maximum f
  otherFees : ∀ f ∉ feeFields t.type, q.fee f = t.request.fee f
  others : q.SameButFees t.request

/-- Why the fees of a transaction are not raised. -/
inductive Refuses (b : FeeBounds) (t : Transaction) : DeliveryError → Prop
  | irreplaceable : feeFields t.type = [] → Refuses b t (.configuration (.irreplaceable t.type))
  | aboveMaximum {f : FeeField} : f ∈ feeFields t.type → b.maximum f < b.raise t f →
    Refuses b t (.configuration (.aboveMaximum f (b.raise t f) (b.maximum f)))

variable {b : FeeBounds} {t : Transaction} {q : TransactionRequest} {f : FeeField}

theorem raised_of_le (h : b.raise t f ≤ b.maximum f) :
    raised f (t.paid f) (b.increment f) (b.maximum f) = .ok (b.raise t f) :=
  if_neg (Nat.not_lt.2 h)

theorem raised_of_lt (h : b.maximum f < b.raise t f) :
    raised f (t.paid f) (b.increment f) (b.maximum f) =
      .error (.configuration (.aboveMaximum f (b.raise t f) (b.maximum f))) :=
  if_pos h

theorem raised_cases (hf : f ∈ feeFields t.type) :
    (b.raise t f ≤ b.maximum f ∧
      raised f (t.paid f) (b.increment f) (b.maximum f) = .ok (b.raise t f)) ∨
    ∃ e, b.Refuses t e ∧ raised f (t.paid f) (b.increment f) (b.maximum f) = .error e := by
  rcases Nat.lt_or_ge (b.maximum f) (b.raise t f) with hlt | hle
  · exact .inr ⟨_, .aboveMaximum hf hlt, raised_of_lt hlt⟩
  · exact .inl ⟨hle, raised_of_le hle⟩

/-- What can come of raising the fees of a transaction. -/
abbrev Bumps (b : FeeBounds) (t : Transaction) (out : Except DeliveryError TransactionRequest) :
    Prop :=
  (∃ q, out = .ok q ∧ b.Raises t q) ∨ ∃ e, out = .error e ∧ b.Refuses t e

theorem feeFields_price (h : t.type = legacyType ∨ t.type = accessListType) :
    feeFields t.type = [.gasPrice] := if_pos h

theorem bumpFees_price (h : t.type = legacyType ∨ t.type = accessListType) (b : FeeBounds) :
    bumpFees t b = (do
      let gasPrice ← raised .gasPrice (t.paid .gasPrice) (b.increment .gasPrice) (b.maximum .gasPrice)
      pure { t.request with gasPrice := some gasPrice }) := if_pos h

theorem not_price_of_caps (h : t.type = dynamicFeeType ∨ t.type = blobType) :
    ¬ (t.type = legacyType ∨ t.type = accessListType) := by
  rintro (hprice | hprice) <;> rcases h with hcaps | hcaps <;> cases hprice.symm.trans hcaps

theorem feeFields_caps (h : t.type = dynamicFeeType ∨ t.type = blobType) :
    feeFields t.type = [.tipCap, .feeCap] := (if_neg (not_price_of_caps h)).trans (if_pos h)

theorem bumpFees_caps (h : t.type = dynamicFeeType ∨ t.type = blobType) (b : FeeBounds) :
    bumpFees t b = (do
      let tipCap ← raised .tipCap (t.paid .tipCap) (b.increment .tipCap) (b.maximum .tipCap)
      let feeCap ← raised .feeCap (t.paid .feeCap) (b.increment .feeCap) (b.maximum .feeCap)
      pure { t.request with tipCap := some tipCap, feeCap := some feeCap }) :=
  (if_neg (not_price_of_caps h)).trans (if_pos h)

theorem bumps_price (h : t.type = legacyType ∨ t.type = accessListType) :
    b.Bumps t (bumpFees t b) := by
  have hfields := feeFields_price h
  have hbump := bumpFees_price h b
  rcases raised_cases (b := b) (t := t) (f := .gasPrice) (by simp [hfields]) with
    ⟨hle, hr⟩ | ⟨e, hrefuses, hr⟩
  · rw [hr] at hbump
    refine .inl ⟨_, hbump, ?_⟩
    constructor
    · simp [hfields]
    · simp [hfields, TransactionRequest.fee]
    · simpa [hfields] using hle
    · intro f hf
      cases f <;> simp_all [TransactionRequest.fee]
    · rfl
  · rw [hr] at hbump
    exact .inr ⟨e, hbump, hrefuses⟩

theorem bumps_caps (h : t.type = dynamicFeeType ∨ t.type = blobType) :
    b.Bumps t (bumpFees t b) := by
  have hfields := feeFields_caps h
  have hbump := bumpFees_caps h b
  -- the tip comes first: when both are above their maxima, it is what is complained about
  rcases raised_cases (b := b) (t := t) (f := .tipCap) (by simp [hfields]) with
    ⟨htip, hr⟩ | ⟨e, hrefuses, hr⟩
  · rcases raised_cases (b := b) (t := t) (f := .feeCap) (by simp [hfields]) with
      ⟨hfee, hr'⟩ | ⟨e, hrefuses, hr'⟩
    · rw [hr, hr'] at hbump
      refine .inl ⟨_, hbump, ?_⟩
      constructor
      · simp [hfields]
      · simp [hfields, TransactionRequest.fee]
      · simpa [hfields] using ⟨htip, hfee⟩
      · intro f hf
        cases f <;> simp_all [TransactionRequest.fee]
      · rfl
    · rw [hr, hr'] at hbump
      exact .inr ⟨e, hbump, hrefuses⟩
  · rw [hr] at hbump
    exact .inr ⟨e, hbump, hrefuses⟩

theorem bumps (b : FeeBounds) (t : Transaction) : b.Bumps t (bumpFees t b) := by
  by_cases hprice : t.type = legacyType ∨ t.type = accessListType
  · exact bumps_price hprice
  · by_cases hcaps : t.type = dynamicFeeType ∨ t.type = blobType
    · exact bumps_caps hcaps
    · have hfields : feeFields t.type = [] := (if_neg hprice).trans (if_neg hcaps)
      exact .inr ⟨_, (if_neg hprice).trans (if_neg hcaps), .irreplaceable hfields⟩

theorem raises_of_ok (h : bumpFees t b = .ok q) : b.Raises t q := by
  rcases bumps b t with ⟨q', hok, hraises⟩ | ⟨e, herror, -⟩
  · obtain rfl := Except.ok.inj (h.symm.trans hok)
    exact hraises
  · cases h.symm.trans herror

theorem refuses_of_error {e : DeliveryError} (h : bumpFees t b = .error e) : b.Refuses t e := by
  rcases bumps b t with ⟨q', hok, -⟩ | ⟨e', herror, hrefuses⟩
  · cases h.symm.trans hok
  · obtain rfl := Except.error.inj (h.symm.trans herror)
    exact hrefuses

end FeeBounds

/-! ## The rule of the percentage -/

/-- A request pays, of each fee, at least what lies by a percentage above a transaction. -/
def TransactionRequest.Outbids (q : TransactionRequest) (t : Transaction) (percent : Nat) : Prop :=
  ∀ f ∈ feeFields t.type, ∃ fee, q.fee f = some fee ∧ bumpByPercent (t.paid f) percent ≤ fee

/-- No increment is less than the percentage of what it can be added to. -/
def FeeBounds.Covers (b : FeeBounds) (type percent : Nat) : Prop :=
  ∀ f ∈ feeFields type, (b.maximum f - b.increment f) * percent / 100 ≤ b.increment f

instance (b : FeeBounds) (type percent : Nat) : Decidable (b.Covers type percent) :=
  inferInstanceAs (Decidable (∀ f ∈ feeFields type, _))

theorem bumpByPercent_le_addWei {old increment : Wei} {percent : Nat} :
    bumpByPercent old percent ≤ addWei old increment ↔
      bumpByPercent old percent - old ≤ increment := by
  have hmax := bumpByPercent_le_weiMax old percent
  simp only [addWei, Nat.le_min, hmax, true_and, Nat.sub_le_iff_le_add']

/-- What is added to a fee that can be raised covers the percentage, if it does so below the
    maximum. -/
theorem bumpByPercent_le_of_covers {old increment maximum : Wei} {percent : Nat}
    (hwithin : addWei old increment ≤ maximum)
    (hcovers : (maximum - increment) * percent / 100 ≤ increment) :
    bumpByPercent old percent ≤ addWei old increment := by
  rcases Nat.le_total (old + increment) weiMax with hle | hle
  · rw [addWei, Nat.min_eq_right hle] at hwithin ⊢
    have hold : old * percent / 100 ≤ increment :=
      Nat.le_trans (Nat.div_le_div_right (Nat.mul_le_mul_right percent
        (Nat.le_sub_of_add_le hwithin))) hcovers
    exact Nat.le_trans (bumpByPercent_le old percent) (Nat.add_le_add_left hold old)
  · -- a sum that is cut off is the largest amount there is
    rw [addWei, Nat.min_eq_left hle]
    exact bumpByPercent_le_weiMax old percent

namespace FeeBounds.Raises

variable {b : FeeBounds} {t : Transaction} {q : TransactionRequest}

theorem outbids_iff (h : b.Raises t q) (percent : Nat) : q.Outbids t percent ↔
    ∀ f ∈ feeFields t.type, bumpByPercent (t.paid f) percent - t.paid f ≤ b.increment f := by
  refine forall₂_congr fun f hf => ?_
  rw [h.fees f hf, ← bumpByPercent_le_addWei]
  simp [raise]

theorem outbids (h : b.Raises t q) {percent : Nat} (hcovers : b.Covers t.type percent) :
    q.Outbids t percent := fun f hf =>
  ⟨b.raise t f, h.fees f hf, bumpByPercent_le_of_covers (h.within f hf) (hcovers f hf)⟩

end FeeBounds.Raises

/-! ## Checked settings -/

theorem SettingFault.unless_ok {fault : SettingFault} {holds : Bool} {next : Except SettingFault Unit}
    (h : (fault.unless holds >>= fun _ => next) = .ok ()) : holds = true ∧ next = .ok () := by
  cases holds with
  | false => cases h
  | true => exact ⟨rfl, h⟩

/-- Settings that pass their check look at a transaction in intervals that are not zero. -/
theorem TransactionSettings.checkSecs_ne_zero {s : TransactionSettings} {r : ReplaceSettings}
    (hcheck : s.check = .ok ()) (hreplace : s.replace = some r) : r.checkSecs ≠ 0 := by
  rw [check, hreplace] at hcheck
  obtain ⟨-, hrates⟩ := SettingFault.unless_ok hcheck
  obtain ⟨-, hbase⟩ := SettingFault.unless_ok hrates
  obtain ⟨-, hpercentile⟩ := SettingFault.unless_ok hbase
  obtain ⟨-, hwatch⟩ := SettingFault.unless_ok hpercentile
  obtain ⟨hinterval, -⟩ := SettingFault.unless_ok hwatch
  exact bne_iff_ne.1 hinterval

namespace Sender

open Delivery

variable {σ : Type} [Node σ]

/-! ## Watches and the percentage -/

/-- The same sender with another percentage, or none. -/
def withBump (s : Sender) (bump : Option Nat) : Sender :=
  { s with settings := { s.settings with priceBump := bump } }

variable (s : Sender) (bump : Option Nat) (token : CancelToken)

theorem pollReceipt_withBump (hash : Hash) (left : Nat) :
    (s.withBump bump).pollReceipt (σ := σ) token hash left = s.pollReceipt token hash left := by
  induction left with
  | zero => rfl
  | succ left ih =>
    unfold pollReceipt
    rw [ih]
    rfl

theorem finish_withBump (t : Transaction) (b : FeeBounds) :
    (s.withBump bump).finish (σ := σ) token t b = s.finish token t b := by
  have hwait (hash : Hash) :
      (s.withBump bump).waitForReceipt (σ := σ) token hash = s.waitForReceipt token hash :=
    pollReceipt_withBump s bump token hash _
  have hsign : (s.withBump bump).sign (σ := σ) = s.sign := rfl
  unfold finish replace sendAndWait
  simp only [hsign, hwait]

theorem watch_withBump (r : ReplaceSettings) (positive : r.checkSecs ≠ 0) (hash : Hash)
    (since instant : Instant) : (s.withBump bump).watch (σ := σ) r positive token hash since instant =
      s.watch r positive token hash since instant := by
  induction instant using watch_induction positive since with
  | look instant ih =>
    unfold watch
    refine congrArg (lookAt (σ := σ) token hash instant >>= ·) (funext fun found => ?_)
    cases found with
    | none => rfl
    | some t =>
      refine congrArg (nowFrom (σ := σ) instant >>= ·) (funext fun time => ?_)
      -- the sender only matters when the transaction is replaced
      by_cases hwaiting : time - since ≤ seconds r.pendingSecs
      · rw [dif_pos hwaiting, dif_pos hwaiting]
        exact ih time time.2 hwaiting
      · rw [dif_neg hwaiting, dif_neg hwaiting]
        exact finish_withBump s bump token t r.bounds

/-- **A watch never looks at the percentage.** -/
theorem replaceStuck_priceBump (hash : Hash) (since : Instant) :
    (s.withBump bump).replaceStuck (σ := σ) token hash since = s.replaceStuck token hash since := by
  have hreplace : (s.withBump bump).settings.replace = s.settings.replace := rfl
  unfold replaceStuck
  rw [hreplace]
  cases s.settings.replace with
  | none => rfl
  | some r => simp only [watch_withBump (σ := σ)]

/-! ## What is broadcast -/

variable {s : Sender} {r : ReplaceSettings} {b : FeeBounds} {token : CancelToken} {t : Transaction}
  {y : Session σ} {raws : List Bytes} {out : Except DeliveryError ReplacementOutcome × Session σ}

theorem Replaces.raises {raw : Bytes} (h : s.Replaces b token t y raws out) (hraw : raw ∈ raws) :
    ∃ q, s.account.sign q = .ok raw ∧ b.Raises t q := by
  cases h with
  | refused => cases hraw
  | @posted q _ _ hbump _ hposts =>
    cases hposts with
    | unsigned => cases hraw
    | stopped => cases hraw
    | sent hsign _ =>
      obtain rfl := List.mem_singleton.1 hraw
      exact ⟨q, hsign, FeeBounds.raises_of_ok hbump⟩

/-- Why a transaction that has been found stuck is not replaced. -/
inductive Withholds (s : Sender) (r : ReplaceSettings) (token : CancelToken) (t : Transaction) :
    DeliveryError → Prop
  | refused {e : DeliveryError} : r.bounds.Refuses t e → Withholds s r token t e
  | unsigned {q : TransactionRequest} {e : AccountError} : r.bounds.Raises t q →
    s.account.sign q = .error e → Withholds s r token t (.signing e)
  | stopped {reason : CancelReason} : token ≠ .never → Withholds s r token t (.cancelled reason)
  | overflow : clockLimit ≤ r.checkSecs → Withholds s r token t .clockOverflow

/-- When nothing is sent, there is an error that says why. -/
theorem Replaces.withholds (h : s.Replaces r.bounds token t y [] out) :
    ∃ e, out.1 = .error e ∧ s.Withholds r token t e := by
  cases h with
  | refused hbump => exact ⟨_, rfl, .refused (FeeBounds.refuses_of_error hbump)⟩
  | posted hbump _ hposts =>
    cases hposts with
    | unsigned hsign => exact ⟨_, rfl, .unsigned (FeeBounds.raises_of_ok hbump) hsign⟩
    | stopped _ hcheck =>
      refine ⟨_, rfl, .stopped fun hnever => ?_⟩
      subst hnever
      cases hcheck

/-- A watch ends in one of these ways, or it has been stopped, or its interval is too long for the
    clock. -/
theorem run_replaceStuck (hreplace : s.settings.replace = some r)
    (hcheck : s.settings.check = .ok ()) (token : CancelToken) (hash : Hash) (since : Instant)
    (x : Session σ) : ∃ n raws, Sends x (run (s.replaceStuck token hash since) x).2 raws ∧
      (∀ k < n, finding r hash since (x.now + seconds r.checkSecs) x k = .waiting) ∧
      (s.Ends r.bounds token hash
          (looked hash (looking hash (seconds r.checkSecs) (x.now + seconds r.checkSecs) x n))
          (finding r hash since (x.now + seconds r.checkSecs) x n) raws
          (run (s.replaceStuck token hash since) x) ∨
        raws = [] ∧ ∃ e, (run (s.replaceStuck token hash since) x).1 = .error e ∧
          ∀ t, s.Withholds r token t e) := by
  have hzero : r.checkSecs ≠ 0 := TransactionSettings.checkSecs_ne_zero hcheck hreplace
  by_cases hclock : clockLimit ≤ r.checkSecs
  · have hrun : run (s.replaceStuck token hash since) x = (.error .clockOverflow, x) := by
      simp only [replaceStuck, hreplace, hzero, ↓reduceDIte, hclock, ↓reduceIte]
      rfl
    rw [hrun]
    exact ⟨0, [], (SendsAtOnce.refl x).sends, by simp, .inr ⟨rfl, _, rfl, fun _ => .overflow hclock⟩⟩
  · have hrun : run (s.replaceStuck token hash since) x =
        run (s.watch r hzero token hash since (x.now + seconds r.checkSecs)) x := by
      simp only [replaceStuck, hreplace, hzero, ↓reduceDIte, hclock, ↓reduceIte]
      rfl
    rw [hrun]
    obtain ⟨n, hbefore, ⟨raws, hends⟩ | ⟨hfires, reason, x', hsends, hr⟩⟩ :=
      run_watch s r hzero token hash since (x.now + seconds r.checkSecs) x
    · exact ⟨n, raws, (sends_looked_looking n).trans hends.sendsAtOnce.sends, hbefore, .inl hends⟩
    · rw [hr]
      exact ⟨n, [], hsends, hbefore, .inr ⟨rfl, _, rfl, fun _ => .stopped hfires⟩⟩

/-- **What a watch broadcasts** is the transaction it has found stuck, with its fees raised by the
    increments of the settings.  That keeps the rule of the percentage exactly where the increments
    come up to it, so always where they cover it up to the maxima.  When one of the fees would get
    above its maximum, nothing is sent; and when nothing is sent although the transaction is stuck,
    there is an error that says why. -/
theorem replaceStuck_raises (hreplace : s.settings.replace = some r)
    (hcheck : s.settings.check = .ok ()) (token : CancelToken) (hash : Hash) (since : Instant)
    (x : Session σ) :
    let found := finding r hash since (x.now + seconds r.checkSecs) x
    let out := run (s.replaceStuck token hash since) x
    ∃ n raws, raws.length ≤ 1 ∧ Sends x out.2 raws ∧ (∀ k < n, found k = .waiting) ∧
      (∀ raw ∈ raws, ∃ t q, found n = .stuck t ∧ s.account.sign q = .ok raw ∧ r.bounds.Raises t q ∧
        ∀ percent, s.settings.priceBump = some percent →
          (q.Outbids t percent ↔ ∀ f ∈ feeFields t.type,
            bumpByPercent (t.paid f) percent - t.paid f ≤ r.bounds.increment f) ∧
          (r.bounds.Covers t.type percent → q.Outbids t percent)) ∧
      (∀ t, found n = .stuck t → ∀ f ∈ feeFields t.type, r.bounds.maximum f < r.bounds.raise t f →
        raws = []) ∧
      ∀ t, found n = .stuck t → raws = [] → ∃ e, out.1 = .error e ∧ s.Withholds r token t e := by
  intro found out
  obtain ⟨n, raws, hsends, hbefore, hends | ⟨rfl, e, he, hwithholds⟩⟩ :=
    run_replaceStuck hreplace hcheck token hash since x
  · refine ⟨n, raws, hends.length_le_one, hsends, hbefore, fun raw hraw => ?_,
      fun t ht f hf hlt => ?_, fun t ht hnone => ?_⟩
    · obtain ⟨t, ht, hreplaces⟩ := hends.stuck_of_mem hraw
      obtain ⟨q, hsign, hraises⟩ := hreplaces.raises hraw
      exact ⟨t, q, ht, hsign, hraises, fun percent _ =>
        ⟨hraises.outbids_iff percent, hraises.outbids⟩⟩
    · refine List.eq_nil_iff_forall_not_mem.2 fun raw hraw => ?_
      obtain ⟨q, -, hraises⟩ := (hends.replaces ht).raises hraw
      exact Nat.not_le.2 hlt (hraises.within f hf)
    · subst hnone
      exact (hends.replaces ht).withholds
  · exact ⟨n, [], by simp, hsends, hbefore, by simp, fun _ _ _ _ _ => rfl,
      fun t _ _ => ⟨e, he, hwithholds t⟩⟩

namespace Sample

/-- The watcher, when a replacement has to be dearer by a quarter. -/
def bumping : Sender := watcher.withBump (some 25)

/-- The watch with increments that cover a quarter. -/
def generous : ReplaceSettings := ⟨5, 10, ⟨5000, 25000, 5000, 25000, 5000, 25000⟩⟩

/-- A sender that raises fees by more than the percentage asks for. -/
def spender : Sender :=
  { bumping with settings := { bumping.settings with replace := some generous } }

/-- The transaction with its price raised by 5000. -/
def muchDearer : TransactionRequest := { (pending none).request with gasPrice := some 24800 }

theorem check_settings (bump : Option Nat) (b : FeeBounds) :
    ({ TransactionSettings.default with priceBump := bump, replace := some ⟨5, 10, b⟩ } :
      TransactionSettings).check = .ok () := by
  have hpercentile : TransactionSettings.default.dynamic.percentile.isWithin 100 = true := by
    decide +kernel
  simp only [TransactionSettings.check, hpercentile]
  rfl

theorem sentBy_replaceStuck {s : Sender} {b : FeeBounds} {q : TransactionRequest} {signed : Bytes}
    (hreplace : s.settings.replace = some ⟨5, 10, b⟩) (hbump : bumpFees (pending none) b = .ok q)
    (hsign : s.account.sign q = .ok signed) :
    sentBy (run (s.replaceStuck .never (.zero 32) 0) (watched none)).2.calls = [signed] := by
  obtain ⟨n, hn, raws, -, hends⟩ := ends_replaceStuck (.zero 32) hreplace (by decide : 0 < 5)
    (by decide : 5 < clockLimit) (Nat.zero_le (watched none).now)
  have hfound : finding ⟨5, 10, b⟩ (.zero 32) 0 ((watched none).now + seconds 5) (watched none) n =
      found none n := rfl
  rw [hfound] at hends
  obtain ⟨rfl, rfl⟩ := sent_of_ends none hbump hsign (show n ≤ 10 / 5 from hn) hends
  obtain ⟨new, hnew, hsent⟩ := (sends_looked_looking 2).trans hends.sendsAtOnce.sends
  rw [hnew]
  exact hsent

/-- The first look that does not find the transaction waiting finds it stuck. -/
theorem eq_pending_of_stuck {n : Nat} {t : Transaction}
    (hbefore : ∀ k < n, found none k = .waiting) (ht : found none n = .stuck t) : t = pending none := by
  have hthird : ¬ 2 < n := fun h => by
    have := hbefore 2 h
    rw [found_third] at this
    cases this
  obtain rfl | rfl | rfl : n = 0 ∨ n = 1 ∨ n = 2 := by omega
  · rw [found_first] at ht
    cases ht
  · rw [found_second] at ht
    cases ht
  · rw [found_third] at ht
    cases ht
    rfl

end Sample

/-- With an increment of 5000, a quarter is kept up to a price of 20000. -/
theorem replaceStuck_raises_quarter :
    Sample.spender.settings.replace = some Sample.generous ∧
    Sample.spender.settings.check = .ok () ∧ Sample.spender.settings.priceBump = some 25 ∧
    ∃ raw q, Sends (Sample.watched none)
        (run (Sample.spender.replaceStuck .never (.zero 32) 0) (Sample.watched none)).2 [raw] ∧
      Sample.spender.account.sign q = .ok raw ∧
      q.fee .gasPrice = some 24800 ∧ q.Outbids (Sample.pending none) 25 := by
  have hcheck : Sample.spender.settings.check = .ok () := Sample.check_settings (some 25) _
  obtain ⟨n, raws, -, hsends, hbefore, hraises, -, -⟩ :=
    replaceStuck_raises (s := Sample.spender) (r := Sample.generous) rfl hcheck .never (.zero 32) 0
      (Sample.watched none)
  have hsent : sentBy _ = [utf8 Sample.muchDearer.readable] :=
    Sample.sentBy_replaceStuck (s := Sample.spender) (b := Sample.generous.bounds) rfl rfl rfl
  obtain ⟨new, hnew, rfl⟩ := id hsends
  rw [hnew] at hsent
  have hsent : sentBy new = _ := hsent
  rw [hsent] at hraises hsends
  obtain ⟨t, q, ht, hsign, hfees, hbump⟩ := hraises _ (List.mem_singleton_self _)
  obtain rfl : t = Sample.pending none := Sample.eq_pending_of_stuck hbefore ht
  refine ⟨rfl, hcheck, rfl, _, q, hsends, hsign, ?_, ?_⟩
  · exact hfees.fees .gasPrice (by decide)
  · exact (hbump 25 rfl).2 (by decide)

/-- **Small increments break the rule.**  The settings pass their check and ask for a quarter more; the
    watch replaces a price of 19800 by 19801. -/
theorem replaceStuck_below_bump :
    Sample.bumping.settings.check = .ok () ∧ Sample.bumping.settings.priceBump = some 25 ∧
    Sample.bumping.settings.replace = some Sample.replacing ∧
    bumpFees (Sample.pending none) Sample.replacing.bounds = .ok (Sample.dearer none) ∧
    Sample.bumping.account.sign (Sample.dearer none) = .ok (Sample.raw none) ∧
    sentBy (run (Sample.bumping.replaceStuck .never (.zero 32) 0) (Sample.watched none)).2.calls =
      [Sample.raw none] ∧
    (Sample.dearer none).gasPrice = some 19801 ∧
    bumpByPercent ((Sample.pending none).paid .gasPrice) 25 = 24750 ∧
    ¬ (Sample.dearer none).Outbids (Sample.pending none) 25 := by
  have hoff : Sample.bumping.replaceStuck (σ := ScriptedPeers) .never (.zero 32) 0 =
      Sample.watcher.replaceStuck .never (.zero 32) 0 := replaceStuck_priceBump Sample.watcher _ ..
  refine ⟨Sample.check_settings (some 25) _, rfl, rfl, rfl, rfl, ?_, rfl, by decide, fun h => ?_⟩
  · rw [hoff]
    exact Sample.sentBy_replaceStuck (b := Sample.replacing.bounds) rfl rfl rfl
  · obtain ⟨fee, hfee, hle⟩ := h .gasPrice (by decide)
    obtain rfl : 19801 = fee := Option.some.inj hfee
    exact absurd hle (by decide)

end Sender

end PacketRelay
