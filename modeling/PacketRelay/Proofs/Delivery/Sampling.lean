/-
  Sampling the fee history.

  Fees are sampled from the latest block back, until a block has paid a reward.

  * `FeeHistory.Samples` and `FeeHistory.Unpaid`: what is read off an answer;
  * `walked k` is the session in which query `k` is made and `historyAt k` is what it is answered;
  * `ends_sampleFrom`: a walk back ends with the first answer that is not without a reward, or else
    with the last one that is allowed;
  * `sampleFees_walks`: the blocks that are asked for, and what comes of them;
  * `gasPricing_sampled`: the sample that a price is chosen from, and the number of blocks that is
    reported when there is none.
-/
import PacketRelay.Proofs.Delivery.Ordering
import PacketRelay.Proofs.Session.Guarded
import PacketRelay.Scripted

namespace PacketRelay

open Session

/-! ## Samples -/

namespace FeeHistory

/-- The reward at the first percentile in the first block, where there is one. -/
def firstReward? (h : FeeHistory) : Option Wei := (h.rewards.bind List.head?).bind List.head?

/-- No reward is given, or it is zero. -/
def Unpaid (h : FeeHistory) : Prop := ∀ reward ∈ h.firstReward?, reward = 0

/-- The first reward is given and not zero.  Where no base fee is given, it counts as zero. -/
structure Samples (h : FeeHistory) (reward baseFee : Wei) : Prop where
  first : h.firstReward? = some reward
  ne_zero : reward ≠ 0
  base : h.baseFees.head? = some baseFee ∨ h.baseFees = [] ∧ baseFee = 0

theorem sample?_eq (h : FeeHistory) : h.sample? =
    if h.firstReward?.getD 0 = 0 then none
    else some (h.firstReward?.getD 0, h.baseFees.head?.getD 0) := rfl

theorem unpaid_iff {h : FeeHistory} : h.Unpaid ↔ h.firstReward?.getD 0 = 0 := by
  cases hfirst : h.firstReward? with
  | none => simp [Unpaid, hfirst]
  | some reward => simp [Unpaid, hfirst]

/-- An answer is a sample, or it is without a reward. -/
theorem sample?_cases (h : FeeHistory) :
    (h.Unpaid ∧ h.sample? = none) ∨
    ∃ reward baseFee, h.Samples reward baseFee ∧ h.sample? = some (reward, baseFee) := by
  rw [sample?_eq]
  by_cases hzero : h.firstReward?.getD 0 = 0
  · exact .inl ⟨unpaid_iff.2 hzero, if_pos hzero⟩
  · rw [if_neg hzero]
    cases hfirst : h.firstReward? with
    | none => exact absurd (by rw [hfirst]; rfl) hzero
    | some reward =>
      rw [hfirst] at hzero
      refine .inr ⟨reward, h.baseFees.head?.getD 0, ⟨hfirst, hzero, ?_⟩, rfl⟩
      cases hfees : h.baseFees with
      | nil => exact .inr ⟨rfl, rfl⟩
      | cons baseFee _ => exact .inl rfl

theorem Samples.not_unpaid {h : FeeHistory} {reward baseFee : Wei} (hs : h.Samples reward baseFee) :
    ¬ h.Unpaid :=
  fun hunpaid => hs.ne_zero (hunpaid reward hs.first)

theorem Samples.unique {h : FeeHistory} {reward reward' baseFee baseFee' : Wei}
    (hs : h.Samples reward baseFee) (hs' : h.Samples reward' baseFee') :
    reward = reward' ∧ baseFee = baseFee' := by
  refine ⟨Option.some.inj (hs.first.symm.trans hs'.first), ?_⟩
  rcases hs.base with hbase | ⟨hnil, rfl⟩ <;> rcases hs'.base with hbase' | ⟨hnil', rfl⟩
  · exact Option.some.inj (hbase.symm.trans hbase')
  · simp [hnil'] at hbase
  · simp [hnil] at hbase'
  · rfl

end FeeHistory

/-! ## Calls -/

/-- The block whose fees a call asks for. -/
def Call.feeBlock? : Call → Option Nat
  | node (.feeHistory _ last _) => some last
  | _ => none

/-- The blocks whose fees have been asked for, in this order. -/
def Session.feeBlocks {σ : Type} (x : Session σ) : List Nat :=
  x.calls.filterMap fun c => c.2.feeBlock?

namespace Delivery

/-! ## Outcomes -/

/-- The error when no block has paid a reward. -/
def noSample (s : DynamicFeeSettings) : DeliveryError :=
  .feeHistoryUnavailable (min (s.retries + 1) ((1 <<< 32) - 1))

/-- What comes of the last answer. -/
inductive Settles (s : DynamicFeeSettings) :
    Except NodeError FeeHistory → Except DeliveryError (Wei × Wei) → Prop
  | failed (e : NodeError) : Settles s (.error e) (.error (.ofNode e))
  | sampled {h : FeeHistory} {reward baseFee : Wei} : h.Samples reward baseFee →
    Settles s (.ok h) (.ok (reward, baseFee))
  | unpaid {h : FeeHistory} : h.Unpaid → Settles s (.ok h) (.error (noSample s))

variable {s : DynamicFeeSettings}

theorem Settles.unique {answer : Except NodeError FeeHistory}
    {r r' : Except DeliveryError (Wei × Wei)} (h : Settles s answer r) (h' : Settles s answer r') :
    r = r' := by
  cases h with
  | failed e => cases h'; rfl
  | sampled hsamples =>
    cases h' with
    | sampled hsamples' =>
      obtain ⟨rfl, rfl⟩ := hsamples.unique hsamples'
      rfl
    | unpaid hunpaid => exact absurd hunpaid hsamples.not_unpaid
  | unpaid hunpaid =>
    cases h' with
    | sampled hsamples => exact absurd hunpaid hsamples.not_unpaid
    | unpaid _ => rfl

theorem Settles.of_ok {answer : Except NodeError FeeHistory} {reward baseFee : Wei}
    (h : Settles s answer (.ok (reward, baseFee))) :
    ∃ history, answer = .ok history ∧ history.Samples reward baseFee := by
  cases h with
  | sampled hsamples => exact ⟨_, rfl, hsamples⟩

theorem Settles.of_unavailable {answer : Except NodeError FeeHistory}
    {r : Except DeliveryError (Wei × Wei)} {blocks : Nat} (h : Settles s answer r)
    (hr : r = .error (.feeHistoryUnavailable blocks)) :
    (∃ history, answer = .ok history ∧ history.Unpaid) ∧
      blocks = min (s.retries + 1) ((1 <<< 32) - 1) := by
  cases h with
  | failed e => cases e <;> cases hr
  | sampled hsamples => cases hr
  | unpaid hunpaid =>
    exact ⟨⟨_, rfl, hunpaid⟩, (DeliveryError.feeHistoryUnavailable.inj (Except.error.inj hr)).symm⟩

/-! ## Queries -/

variable {σ : Type} [Node σ]

theorem feeBlocks_asked (q : Query) (x : Session σ) :
    (x.asked q).feeBlocks = x.feeBlocks ++ (Call.node q).feeBlock?.toList := by
  change (x.calls ++ [(x.now, Call.node q)]).filterMap _ = _
  rw [List.filterMap_append]
  rfl

/-- A query is answered, unless the token fires. -/
theorem run_query_answered_or_stopped (token : CancelToken) (q : Query) (x : Session σ) :
    run (query token q) x = ((Node.reply q x.peers).1.mapError .ofNode, x.asked q) ∨
    (token ≠ .never ∧ ∃ reason x', run (query token q) x = (.error (.cancelled reason), x')) := by
  rcases run_call_answered_or_stopped token .cancelled (.node q) (Node.delay · q) (Node.reply q) x with
    hr | ⟨htoken, reason, x', hr⟩
  · left
    rw [query, run_adapt, ask_eq_call, hr]
    rfl
  · refine .inr ⟨htoken, reason, x', ?_⟩
    rw [query, run_adapt, ask_eq_call, hr]
    rfl

/-! ## Walking back -/

/-- The query for the fees of the block that lies `k` blocks before the latest one. -/
def historyQuery (s : DynamicFeeSettings) (latest k : Nat) : Query :=
  .feeHistory 1 (latest - k) [s.percentile]

/-- The session in which query `k` is made. -/
def walked (s : DynamicFeeSettings) (latest : Nat) (x : Session σ) : Nat → Session σ
  | 0 => x
  | k + 1 => (walked s latest x k).asked (historyQuery s latest k)

/-- What query `k` is answered. -/
def historyAt (s : DynamicFeeSettings) (latest : Nat) (x : Session σ) (k : Nat) :
    Except NodeError FeeHistory :=
  (Node.reply (historyQuery s latest k) (walked s latest x k).peers).1

variable {latest : Nat} {x : Session σ}

/-- Query `k` is answered without a reward. -/
def UnpaidAt (s : DynamicFeeSettings) (latest : Nat) (x : Session σ) (k : Nat) : Prop :=
  ∃ h, historyAt s latest x k = .ok h ∧ h.Unpaid

/-- Query `i` is the last one: those before it are answered without a reward, and if it is so itself,
    then no other is allowed, by the settings or because it is for block zero. -/
structure LastQuery (s : DynamicFeeSettings) (latest : Nat) (x : Session σ) (i : Nat) : Prop where
  le : i ≤ min s.retries latest
  before : ∀ k < i, UnpaidAt s latest x k
  spent : UnpaidAt s latest x i → i = min s.retries latest

/-- How a walk back from the latest block ends. -/
inductive Ends (token : CancelToken) (s : DynamicFeeSettings) (latest : Nat) (x : Session σ)
    (out : Except DeliveryError (Wei × Wei) × Session σ) : Prop
  | walked (i : Nat) : LastQuery s latest x i → Settles s (historyAt s latest x i) out.1 →
    out.2 = walked s latest x (i + 1) → Ends token s latest x out
  | cancelled (reason : CancelReason) : token ≠ .never → out.1 = .error (.cancelled reason) →
    Ends token s latest x out

theorem LastQuery.unique {i j : Nat} (hi : LastQuery s latest x i) (hj : LastQuery s latest x j) :
    i = j := by
  have hi' := hi.le
  have hj' := hj.le
  rcases Nat.lt_trichotomy i j with hlt | heq | hlt
  · have := hi.spent (hj.before i hlt)
    omega
  · exact heq
  · have := hj.spent (hi.before j hlt)
    omega

theorem calls_walked (k : Nat) : (walked s latest x k).calls = x.calls ++
    (List.range k).map fun j => ((walked s latest x j).now, .node (historyQuery s latest j)) := by
  induction k with
  | zero => simp [walked]
  | succ k ih =>
    rw [List.range_succ, List.map_append, ← List.append_assoc, ← ih]
    rfl

theorem feeBlocks_walked (k : Nat) :
    (walked s latest x k).feeBlocks = x.feeBlocks ++ (List.range k).map (latest - ·) := by
  induction k with
  | zero => simp [walked]
  | succ k ih =>
    rw [walked, feeBlocks_asked, ih, List.range_succ, List.map_append, List.append_assoc]
    rfl

/-- What is done after an answer without a reward. -/
def resume (token : CancelToken) (s : DynamicFeeSettings) :
    (left block : Nat) → Run σ DeliveryError (Wei × Wei)
  | left + 1, block + 1 => sampleFrom token s left block
  | _, _ => throw (noSample s)

/-- What is done after an answer. -/
def proceed (token : CancelToken) (s : DynamicFeeSettings) (left block : Nat) (h : FeeHistory) :
    Run σ DeliveryError (Wei × Wei) :=
  match h.sample? with
  | some sample => pure sample
  | none => resume token s left block

theorem sampleFrom_eq (token : CancelToken) (s : DynamicFeeSettings) (left block : Nat) :
    sampleFrom (σ := σ) token s left block =
      query token (.feeHistory 1 block [s.percentile]) >>= proceed token s left block := by
  unfold sampleFrom
  refine bind_congr fun h => ?_
  unfold proceed
  cases FeeHistory.sample? h <;> cases left <;> cases block <;> rfl

theorem proceed_none {h : FeeHistory} (hsample : h.sample? = none) (token : CancelToken)
    (s : DynamicFeeSettings) (left block : Nat) :
    proceed (σ := σ) token s left block h = resume token s left block := by
  rw [proceed, hsample]

theorem proceed_some {h : FeeHistory} {sample : Wei × Wei} (hsample : h.sample? = some sample)
    (token : CancelToken) (s : DynamicFeeSettings) (left block : Nat) :
    proceed (σ := σ) token s left block h = pure sample := by
  rw [proceed, hsample]

/-- One query of a walk: its answer settles the outcome, or the walk goes on. -/
theorem run_sampleFrom_cases (token : CancelToken) (s : DynamicFeeSettings) (left block : Nat)
    (x : Session σ) :
    let q := Query.feeHistory 1 block [s.percentile]
    let out := run (sampleFrom token s left block) x
    (∃ e, (Node.reply q x.peers).1 = .error e ∧ out = (.error (.ofNode e), x.asked q)) ∨
    (∃ h reward baseFee, (Node.reply q x.peers).1 = .ok h ∧ h.Samples reward baseFee ∧
      out = (.ok (reward, baseFee), x.asked q)) ∨
    (∃ h, (Node.reply q x.peers).1 = .ok h ∧ h.Unpaid ∧
      out = run (resume token s left block) (x.asked q)) ∨
    (token ≠ .never ∧ ∃ reason x', out = (.error (.cancelled reason), x')) := by
  intro q out
  have hout : out = run (query token q >>= proceed token s left block) x :=
    congrArg (run · x) (sampleFrom_eq token s left block)
  rcases run_query_answered_or_stopped token q x with hr | ⟨htoken, reason, x', hr⟩
  · cases hanswer : (Node.reply q x.peers).1 with
    | error e =>
      rw [hanswer] at hr
      exact .inl ⟨e, rfl, hout.trans (run_bind_of_error hr)⟩
    | ok h =>
      rw [hanswer] at hr
      have hproceed : out = run (proceed token s left block h) (x.asked q) :=
        hout.trans (run_bind_of_ok hr)
      rcases FeeHistory.sample?_cases h with ⟨hunpaid, hsample⟩ | ⟨reward, baseFee, hsamples, hsample⟩
      · rw [proceed_none hsample] at hproceed
        exact .inr (.inr (.inl ⟨h, rfl, hunpaid, hproceed⟩))
      · rw [proceed_some hsample] at hproceed
        exact .inr (.inl ⟨h, reward, baseFee, rfl, hsamples, hproceed⟩)
  · exact .inr (.inr (.inr ⟨htoken, reason, x', hout.trans (run_bind_of_error hr)⟩))

theorem resume_spent (token : CancelToken) (s : DynamicFeeSettings) {left block : Nat}
    (h : left = 0 ∨ block = 0) : resume (σ := σ) token s left block = throw (noSample s) := by
  unfold resume
  split
  · omega
  · rfl

/-- A walk ends with query `k`, or its answer is without a reward and the walk goes on. -/
theorem ends_of_resume {token : CancelToken} {k left : Nat} (hleft : s.retries = k + left)
    (hk : k ≤ latest) (hbefore : ∀ j < k, UnpaidAt s latest x j)
    (hresume : UnpaidAt s latest x k → left ≠ 0 → latest - k ≠ 0 → Ends token s latest x
      (run (resume token s left (latest - k)) (walked s latest x (k + 1)))) :
    Ends token s latest x (run (sampleFrom token s left (latest - k)) (walked s latest x k)) := by
  have hle : k ≤ min s.retries latest := by omega
  rcases run_sampleFrom_cases token s left (latest - k) (walked s latest x k) with
    ⟨e, hanswer, hr⟩ | ⟨h, reward, baseFee, hanswer, hsamples, hr⟩ | ⟨h, hanswer, hunpaid, hr⟩ |
    ⟨htoken, reason, x', hr⟩
  · have hfailed : historyAt s latest x k = .error e := hanswer
    rw [hr]
    refine .walked k ⟨hle, hbefore, ?_⟩ (hfailed ▸ .failed e) rfl
    rintro ⟨h, hok, -⟩
    cases hfailed.symm.trans hok
  · have hsampled : historyAt s latest x k = .ok h := hanswer
    rw [hr]
    refine .walked k ⟨hle, hbefore, ?_⟩ (hsampled ▸ .sampled hsamples) rfl
    rintro ⟨h', hok, hunpaid⟩
    obtain rfl := Except.ok.inj (hsampled.symm.trans hok)
    exact absurd hunpaid hsamples.not_unpaid
  · have hwithout : historyAt s latest x k = .ok h := hanswer
    rw [hr]
    by_cases hspent : left = 0 ∨ latest - k = 0
    · rw [resume_spent token s hspent]
      exact .walked k ⟨hle, hbefore, fun _ => by omega⟩ (hwithout ▸ .unpaid hunpaid) rfl
    · obtain ⟨hleft', hblock⟩ := not_or.1 hspent
      exact hresume ⟨h, hwithout, hunpaid⟩ hleft' hblock
  · rw [hr]
    exact .cancelled reason htoken rfl

/-- **A walk back** ends with the first answer that is not without a reward, or else with the last one
    that is allowed. -/
theorem ends_sampleFrom (token : CancelToken) {k left : Nat} (hleft : s.retries = k + left)
    (hk : k ≤ latest) (hbefore : ∀ j < k, UnpaidAt s latest x j) :
    Ends token s latest x (run (sampleFrom token s left (latest - k)) (walked s latest x k)) := by
  induction left generalizing k with
  | zero => exact ends_of_resume hleft hk hbefore fun _ hzero => absurd rfl hzero
  | succ left ih =>
    refine ends_of_resume hleft hk hbefore fun hunpaid _ hblock => ?_
    obtain ⟨block, hblock'⟩ := Nat.exists_eq_succ_of_ne_zero hblock
    have hnext : latest - (k + 1) = block := by omega
    rw [hblock', resume, ← hnext]
    refine ih (by omega) (by omega) fun j hj => ?_
    rcases Nat.lt_succ_iff_lt_or_eq.1 hj with hj | rfl
    · exact hbefore j hj
    · exact hunpaid

/-- **Sampling walks back** from the latest block. -/
theorem run_sampleFees_cases (token : CancelToken) (s : DynamicFeeSettings) (x : Session σ) :
    (∃ e, (Node.reply .blockNumber x.peers).1 = .error e ∧
      run (sampleFees token s) x = (.error (.ofNode e), x.asked .blockNumber)) ∨
    (∃ latest : Nat, (Node.reply .blockNumber x.peers).1 = .ok latest ∧
      Ends token s latest (x.asked .blockNumber) (run (sampleFees token s) x)) ∨
    (token ≠ .never ∧ ∃ reason x', run (sampleFees token s) x = (.error (.cancelled reason), x')) := by
  rcases run_query_answered_or_stopped token .blockNumber x with hr | ⟨htoken, reason, x', hr⟩
  · cases hanswer : (Node.reply .blockNumber x.peers).1 with
    | error e =>
      rw [hanswer] at hr
      exact .inl ⟨e, rfl, run_bind_of_error hr⟩
    | ok latest =>
      rw [hanswer] at hr
      refine .inr (.inl ⟨latest, rfl, ?_⟩)
      have hsample : run (sampleFees token s) x =
          run (sampleFrom token s s.retries latest) (x.asked .blockNumber) := run_bind_of_ok hr
      rw [hsample]
      exact ends_sampleFrom token (k := 0) (Nat.zero_add _).symm (Nat.zero_le _) (by simp)
  · exact .inr (.inr ⟨htoken, reason, x', run_bind_of_error hr⟩)

section
variable {s : DynamicFeeSettings} {x : Session σ} {latest : Nat}
  (hlatest : (Node.reply .blockNumber x.peers).1 = .ok latest)

include hlatest

theorem ends_sampleFees_never :
    Ends .never s latest (x.asked .blockNumber) (run (sampleFees .never s) x) := by
  rcases run_sampleFees_cases .never s x with ⟨e, herror, -⟩ | ⟨latest', hanswer, hends⟩ | ⟨hnever, -⟩
  · cases herror.symm.trans hlatest
  · obtain rfl := Except.ok.inj (hanswer.symm.trans hlatest)
    exact hends
  · exact absurd rfl hnever

/-- The last query and its answer are all that the outcome depends on. -/
theorem run_sampleFees_never {i : Nat} {r : Except DeliveryError (Wei × Wei)}
    (hlast : LastQuery s latest (x.asked .blockNumber) i)
    (hsettles : Settles s (historyAt s latest (x.asked .blockNumber) i) r) :
    run (sampleFees .never s) x = (r, walked s latest (x.asked .blockNumber) (i + 1)) := by
  cases ends_sampleFees_never (s := s) hlatest with
  | walked j hlast' hsettles' hout =>
    obtain rfl := hlast.unique hlast'
    exact Prod.ext (hsettles'.unique hsettles) hout
  | cancelled _ hnever => exact absurd rfl hnever

end

/-- **The blocks that are sampled**, with a token that does not fire: the latest one, the one before it
    and so on, one a query and at the percentile of the settings, at most as many older ones as the
    settings and the chain allow.  The first answer that is not without a reward is the last one and
    alone decides; when all are without one, there is no sample. -/
theorem sampleFees_walks (s : DynamicFeeSettings) {x : Session σ} {latest : Nat}
    (hlatest : (Node.reply .blockNumber x.peers).1 = .ok latest) :
    let y := x.asked .blockNumber
    let out := run (sampleFees .never s) x
    ∃ i ≤ min s.retries latest,
      out.2.calls = x.calls ++ (x.now, .node .blockNumber) :: (List.range (i + 1)).map (fun k =>
        ((walked s latest y k).now, .node (.feeHistory 1 (latest - k) [s.percentile]))) ∧
      (∀ k < i, UnpaidAt s latest y k) ∧
      (UnpaidAt s latest y i → i = min s.retries latest) ∧
      Settles s (historyAt s latest y i) out.1 := by
  intro y out
  cases ends_sampleFees_never (s := s) hlatest with
  | walked i hlast hsettles hout =>
    refine ⟨i, hlast.le, ?_, hlast.before, hlast.spent, hsettles⟩
    rw [hout, calls_walked]
    simp only [Session.asked, answered, record, List.append_assoc, List.singleton_append]
    rfl
  | cancelled _ hnever => exact absurd rfl hnever

/-! ### A reward in block zero -/

namespace Sample

/-- A session with a node that knows the fees of some blocks. -/
def chain (latest : Nat) (fees : List (Nat × FeeHistory)) : Session ScriptedPeers :=
  ⟨{ node := { blockNumber := latest, feeHistory := fees } }, 0, [], ⟨.memory [], 1, 1⟩, false⟩

/-- Of three blocks only block zero has paid a reward. -/
def early : Session ScriptedPeers :=
  chain 2 [(2, ⟨none, [9]⟩), (1, ⟨some [[]], [9]⟩), (0, ⟨some [[7]], [20]⟩)]

/-- Settings with a number of retries. -/
def retrying (retries : Nat) : DynamicFeeSettings := { DynamicFeeSettings.default with retries }

/-- What sampling the fees of the young chain comes to. -/
abbrev sampledFees (retries : Nat) :
    Except DeliveryError (Wei × Wei) × Session ScriptedPeers :=
  run (sampleFees .never (retrying retries)) early

theorem unpaidAt_early (retries : Nat) :
    ∀ k < 2, UnpaidAt (retrying retries) 2 (early.asked .blockNumber) k
  | 0, _ => ⟨⟨none, [9]⟩, rfl, FeeHistory.unpaid_iff.2 rfl⟩
  | 1, _ => ⟨⟨some [[]], [9]⟩, rfl, FeeHistory.unpaid_iff.2 rfl⟩

theorem lastQuery_early_all : LastQuery (retrying 5) 2 (early.asked .blockNumber) 2 :=
  ⟨by decide, unpaidAt_early 5, fun _ => rfl⟩

theorem lastQuery_early_one : LastQuery (retrying 1) 2 (early.asked .blockNumber) 1 :=
  ⟨by decide, fun k hk => unpaidAt_early 1 k (Nat.lt_succ_of_lt hk), fun _ => rfl⟩

end Sample

/-- A reward in block zero of a chain with three blocks is found when more retries are allowed than
    there are blocks.  When one is allowed, there is no sample. -/
theorem sampleFees_walks_early :
    (Node.reply .blockNumber Sample.early.peers).1 = .ok (2 : Nat) ∧
    (Sample.sampledFees 5).1 = .ok (7, 20) ∧
    (Sample.sampledFees 5).2.feeBlocks = [2, 1, 0] ∧
    (Sample.sampledFees 1).1 = .error (.feeHistoryUnavailable 2) ∧
    (Sample.sampledFees 1).2.feeBlocks = [2, 1] := by
  have hlatest : (Node.reply .blockNumber Sample.early.peers).1 = .ok (2 : Nat) := rfl
  obtain ⟨i, hi, hcalls, hbefore, hspent, hsettles⟩ := sampleFees_walks (Sample.retrying 5) hlatest
  obtain rfl := Sample.lastQuery_early_all.unique ⟨hi, hbefore, hspent⟩
  obtain ⟨i', hi', hcalls', hbefore', hspent', hsettles'⟩ :=
    sampleFees_walks (Sample.retrying 1) hlatest
  obtain rfl := Sample.lastQuery_early_one.unique ⟨hi', hbefore', hspent'⟩
  have hsamples : FeeHistory.Samples ⟨some [[7]], [20]⟩ 7 20 := ⟨rfl, by decide, .inl rfl⟩
  have hunpaid : FeeHistory.Unpaid ⟨some [[]], [9]⟩ := FeeHistory.unpaid_iff.2 rfl
  refine ⟨hlatest, hsettles.unique (.sampled hsamples), ?_, hsettles'.unique (.unpaid hunpaid), ?_⟩
  · rw [feeBlocks, hcalls]
    rfl
  · rw [feeBlocks, hcalls']
    rfl

/-! ## Prices from samples -/

theorem run_query_ok {token : CancelToken} {q : Query} {x x' : Session σ} {a : q.Answer}
    (h : run (query token q) x = (.ok a, x')) :
    (Node.reply q x.peers).1 = .ok a ∧ x' = x.asked q := by
  refine ⟨ask_ok (run_adapt_ok h), ?_⟩
  rcases run_query_answered_or_stopped token q x with hr | ⟨-, reason, x'', hr⟩
  · exact congrArg Prod.snd (h.symm.trans hr)
  · cases h.symm.trans hr

/-- To look for a pending transaction no fees are asked for. -/
theorem feeBlocks_pendingAt {token : CancelToken} {s : TransactionSettings} {sender : Address}
    {nonce : Option Nat} {x x' : Session σ} {pending : Option PendingTransaction}
    (h : run (pendingAt token s sender nonce) x = (.ok pending, x')) : x'.feeBlocks = x.feeBlocks := by
  unfold pendingAt at h
  split at h
  · obtain ⟨reported, x₁, hquery, hrest⟩ := run_bind_ok h
    obtain rfl : x₁ = x' := congrArg Prod.snd hrest
    rw [(run_query_ok hquery).2, feeBlocks_asked]
    exact List.append_nil _
  · obtain rfl : x = x' := congrArg Prod.snd h
    rfl

theorem dynamicPricing_ne {s : DynamicFeeSettings} {pending : Option PendingTransaction}
    {floors : Floors} {reward baseFee : Wei} {blocks : Nat} :
    dynamicPricing s pending floors reward baseFee ≠ .error (.feeHistoryUnavailable blocks) := by
  intro h
  unfold dynamicPricing at h
  simp only at h
  split at h
  · cases h
  · split at h <;> cases h

/-- A sample is what one of the answers gives. -/
theorem sampleFees_ok {token : CancelToken} {s : DynamicFeeSettings} {x x' : Session σ}
    {reward baseFee : Wei} (h : run (sampleFees token s) x = (.ok (reward, baseFee), x')) :
    ∃ latest i : Nat, ∃ history, (Node.reply .blockNumber x.peers).1 = .ok latest ∧
      i ≤ min s.retries latest ∧ historyAt s latest (x.asked .blockNumber) i = .ok history ∧
      history.Samples reward baseFee := by
  rcases run_sampleFees_cases token s x with ⟨e, -, hr⟩ | ⟨latest, hlatest, hends⟩ | ⟨-, reason, x'', hr⟩
  · cases h.symm.trans hr
  · rw [h] at hends
    cases hends with
    | walked i hlast hsettles _ =>
      obtain ⟨history, hhistory, hsamples⟩ := hsettles.of_ok
      exact ⟨latest, i, history, hlatest, hlast.le, hhistory, hsamples⟩
    | cancelled _ _ hcancelled => cases hcancelled
  · cases h.symm.trans hr

/-- Without a sample, all blocks that the settings and the chain allow have been asked for. -/
theorem sampleFees_unavailable {token : CancelToken} {s : DynamicFeeSettings} {x x' : Session σ}
    {blocks : Nat} (h : run (sampleFees token s) x = (.error (.feeHistoryUnavailable blocks), x')) :
    ∃ latest : Nat, (Node.reply .blockNumber x.peers).1 = .ok latest ∧
      x'.feeBlocks = x.feeBlocks ++ (List.range (min s.retries latest + 1)).map (latest - ·) ∧
      blocks = min (s.retries + 1) ((1 <<< 32) - 1) := by
  rcases run_sampleFees_cases token s x with ⟨e, -, hr⟩ | ⟨latest, hlatest, hends⟩ | ⟨-, reason, x'', hr⟩
  · have herror := congrArg Prod.fst (h.symm.trans hr)
    cases e <;> cases herror
  · rw [h] at hends
    cases hends with
    | walked i hlast hsettles hout =>
      obtain ⟨hunpaid, hblocks⟩ := hsettles.of_unavailable rfl
      obtain rfl : x' = walked s latest (x.asked .blockNumber) (i + 1) := hout
      refine ⟨latest, hlatest, ?_, hblocks⟩
      have hnone : (x.asked .blockNumber).feeBlocks = x.feeBlocks :=
        (feeBlocks_asked _ _).trans (List.append_nil _)
      rw [feeBlocks_walked, hnone, hlast.spent hunpaid]
    | cancelled _ _ hcancelled => cases hcancelled
  · cases h.symm.trans hr

/-- **What a price with dynamic fees is chosen from.**  A price is chosen from the first reward in one
    of the answers about fee histories, which is given and not zero, and from the first base fee in the
    same answer; where none is given, it is chosen from a base fee of zero.  When no sample is found,
    as many blocks are reported as the settings allow; a chain that is shorter has been asked for all
    of its blocks, and more are reported. -/
theorem gasPricing_sampled {token : CancelToken} {s : TransactionSettings} {sender : Address}
    {nonce : Option Nat} {x : Session σ} (hkind : s.kind = .dynamic) :
    let out := run (gasPricing token s sender nonce) x
    (∀ price, out.1 = .ok price →
      ∃ pending x₁, ∃ latest i : Nat, ∃ history reward baseFee,
        run (pendingAt token s sender nonce) x = (.ok pending, x₁) ∧
        (Node.reply .blockNumber x₁.peers).1 = .ok latest ∧ i ≤ min s.dynamic.retries latest ∧
        historyAt s.dynamic latest (x₁.asked .blockNumber) i = .ok history ∧
        history.firstReward? = some reward ∧ reward ≠ 0 ∧
        (history.baseFees.head? = some baseFee ∨ history.baseFees = [] ∧ baseFee = 0) ∧
        dynamicPricing s.dynamic pending (.replacing pending s.priceBump) reward baseFee =
          .ok price) ∧
    (∀ blocks, out.1 = .error (.feeHistoryUnavailable blocks) →
      ∃ pending x₁, ∃ latest : Nat,
        run (pendingAt token s sender nonce) x = (.ok pending, x₁) ∧
        (Node.reply .blockNumber x₁.peers).1 = .ok latest ∧
        out.2.feeBlocks =
          x.feeBlocks ++ (List.range (min s.dynamic.retries latest + 1)).map (latest - ·) ∧
        blocks = min (s.dynamic.retries + 1) ((1 <<< 32) - 1) ∧
        (s.dynamic.retries + 1 < 1 <<< 32 →
          (blocks = min s.dynamic.retries latest + 1 ↔ s.dynamic.retries ≤ latest))) := by
  intro out
  have hout : out = run _ x := congrArg (run · x) (gasPricing_eq token sender nonce hkind)
  constructor
  · intro price hprice
    rw [hout] at hprice
    obtain ⟨pending, x₁, hpending, h⟩ := run_bind_ok (Prod.ext hprice rfl)
    obtain ⟨⟨reward, baseFee⟩, x₂, hsample, h⟩ := run_bind_ok h
    obtain ⟨latest, i, history, hlatest, hi, hhistory, hsamples⟩ := sampleFees_ok hsample
    exact ⟨pending, x₁, latest, i, history, reward, baseFee, hpending, hlatest, hi, hhistory,
      hsamples.first, hsamples.ne_zero, hsamples.base, congrArg Prod.fst h⟩
  · intro blocks hblocks
    rw [hout] at hblocks
    rcases run_bind_error (Prod.ext hblocks rfl) with h | ⟨pending, x₁, hpending, h⟩
    · obtain ⟨e, he⟩ := run_pendingAt_error (congrArg Prod.fst h)
      cases e <;> cases he
    rcases run_bind_error h with h | ⟨sample, x₂, -, h⟩
    · obtain ⟨latest, hlatest, hasked, hreported⟩ := sampleFees_unavailable h
      rw [feeBlocks_pendingAt hpending] at hasked
      refine ⟨pending, x₁, latest, hpending, hlatest, hout ▸ hasked, hreported, fun hretries => ?_⟩
      omega
    · exact absurd (congrArg Prod.fst h) dynamicPricing_ne

/-! ### A chain without rewards and a block without a base fee -/

namespace Sample

/-- Prices are chosen from samples with some retries. -/
def sampling (retries : Nat) : TransactionSettings :=
  { TransactionSettings.default with dynamic := retrying retries }

/-- The price of a transaction that replaces none. -/
abbrev sampled (retries : Nat) (x : Session ScriptedPeers) :
    Except DeliveryError Pricing × Session ScriptedPeers :=
  run (gasPricing .never (sampling retries) (.zero 20) none) x

/-- No block of the chain pays a reward. -/
def idle : Session ScriptedPeers := chain 2 []

/-- The latest block pays a reward, but the node does not tell its base fee. -/
def bare : Session ScriptedPeers := chain 10 [(10, ⟨some [[100]], []⟩)]

theorem unpaidAt_idle (s : DynamicFeeSettings) : ∀ k < 3, UnpaidAt s 2 (idle.asked .blockNumber) k
  | 0, _ => ⟨⟨some [[0]], [0, 0]⟩, rfl, FeeHistory.unpaid_iff.2 rfl⟩
  | 1, _ => ⟨⟨some [[0]], [0, 0]⟩, rfl, FeeHistory.unpaid_iff.2 rfl⟩
  | 2, _ => ⟨⟨some [[0]], [0, 0]⟩, rfl, FeeHistory.unpaid_iff.2 rfl⟩

theorem sampled_idle : sampled 5 idle = (.error (.feeHistoryUnavailable 6),
    walked (sampling 5).dynamic 2 (idle.asked .blockNumber) 3) := by
  have hlast : LastQuery (sampling 5).dynamic 2 (idle.asked .blockNumber) 2 :=
    ⟨by decide, fun k hk => unpaidAt_idle _ k (by omega), fun _ => rfl⟩
  obtain ⟨h, hanswer, hunpaid⟩ := unpaidAt_idle (sampling 5).dynamic 2 (by decide)
  have hsettles : Settles (sampling 5).dynamic
      (historyAt (sampling 5).dynamic 2 (idle.asked .blockNumber) 2)
      (.error (noSample (sampling 5).dynamic)) := by
    rw [hanswer]
    exact .unpaid hunpaid
  have hfees := run_sampleFees_never rfl hlast hsettles
  have hpending : run (pendingAt .never (sampling 5) (.zero 20) none) idle = (.ok none, idle) := rfl
  rw [sampled, gasPricing_eq _ _ _ rfl, run_bind_of_ok hpending, run_bind_of_error hfees]
  rfl

theorem sampled_bare : sampled 0 bare = (.ok (.dynamic 100 100),
    walked (sampling 0).dynamic 10 (bare.asked .blockNumber) 1) := by
  have hsamples : FeeHistory.Samples ⟨some [[100]], []⟩ 100 0 := ⟨rfl, by decide, .inr ⟨rfl, rfl⟩⟩
  have hlast : LastQuery (sampling 0).dynamic 10 (bare.asked .blockNumber) 0 :=
    ⟨by decide, by simp, fun _ => rfl⟩
  have hfees : run (sampleFees .never (sampling 0).dynamic) bare =
      (.ok (100, 0), walked (sampling 0).dynamic 10 (bare.asked .blockNumber) 1) :=
    run_sampleFees_never rfl hlast (.sampled hsamples)
  have hpending : run (pendingAt .never (sampling 0) (.zero 20) none) bare = (.ok none, bare) := rfl
  rw [sampled, run_gasPricing_dynamic rfl hpending hfees]
  rfl

end Sample

/-- Without a reward in the three blocks of a chain, six blocks are reported where five retries are
    allowed. -/
theorem gasPricing_sampled_idle :
    (Sample.sampling 5).kind = .dynamic ∧
    (Sample.sampled 5 Sample.idle).1 = .error (.feeHistoryUnavailable 6) ∧
    (Sample.sampled 5 Sample.idle).2.feeBlocks = [2, 1, 0] := by
  have hresult : (Sample.sampled 5 Sample.idle).1 = .error (.feeHistoryUnavailable 6) :=
    congrArg Prod.fst Sample.sampled_idle
  obtain ⟨pending, x₁, latest, hpending, hlatest, hasked, -⟩ := (gasPricing_sampled rfl).2 6 hresult
  obtain rfl : Sample.idle = x₁ := congrArg Prod.snd hpending
  obtain rfl : 2 = latest := Except.ok.inj hlatest
  exact ⟨rfl, hresult, hasked⟩

/-- **A base fee that is not given counts as zero, and blocks are reported that do not exist.**  A
    price is chosen from an answer that gives no base fee; of a chain with three blocks, six are
    reported. -/
theorem gasPricing_unsampled :
    ((Sample.sampled 0 Sample.bare).1 = .ok (.dynamic 100 100) ∧
      (Sample.sampled 0 Sample.bare).2.feeBlocks = [10] ∧
      historyAt (Sample.sampling 0).dynamic 10 (Sample.bare.asked .blockNumber) 0 =
        .ok ⟨some [[100]], []⟩) ∧
    (Sample.sampled 5 Sample.idle).1 = .error (.feeHistoryUnavailable 6) ∧
      (Sample.sampled 5 Sample.idle).2.feeBlocks = [2, 1, 0] := by
  rw [Sample.sampled_bare, Sample.sampled_idle]
  exact ⟨⟨rfl, feeBlocks_walked 1, rfl⟩, rfl, feeBlocks_walked 3⟩

end Delivery

end PacketRelay
