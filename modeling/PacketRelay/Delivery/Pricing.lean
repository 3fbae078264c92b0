/-
  The price of a new transaction.

  A legacy transaction takes the price the node suggests.  A transaction with dynamic fees takes its
  tip and its fee cap from the fee history.  A transaction that replaces a pending one is priced by
  a percentage above it; when the node suggests less than the pending one pays, the suggestion is
  stale.

  * `Floors` are the least prices of a replacement;
  * `legacyPricing` and `dynamicPricing` choose prices from what the node has answered;
  * `gasPricing` asks the node and chooses.
-/
import PacketRelay.Config.Settings
import PacketRelay.Delivery.Error
import PacketRelay.Session

namespace PacketRelay

/-! ## Choosing prices -/

/-- The least prices of a transaction. -/
structure Floors where
  gasPrice : Wei
  tipCap : Wei
  feeCap : Wei
deriving Repr, DecidableEq

namespace Floors

/-- No least prices. -/
def zero : Floors := ⟨0, 0, 0⟩

/-- The prices that lie by a percentage above those of a pending transaction. -/
def above (t : PendingTransaction) (percent : Nat) : Floors :=
  ⟨bumpByPercent t.gasPrice percent, bumpByPercent t.tipCap percent,
    bumpByPercent t.feeCap percent⟩

/-- The least prices of a transaction that may replace a pending one. -/
def replacing (pending : Option PendingTransaction) (bump : Option Nat) : Floors :=
  match pending, bump with
  | some t, some percent => above t percent
  | _, _ => zero

end Floors

/-- Prices a legacy transaction by the suggested price. -/
def legacyPricing (pending : Option PendingTransaction) (floors : Floors) (suggested : Wei) :
    Except DeliveryError Pricing :=
  match pending.filter fun t => suggested < t.gasPrice with
  | some t => .error (.staleGasPrice t.gasPrice suggested)
  | none => .ok (.legacy (max suggested floors.gasPrice))

/-- A sum of amounts, cut off at `weiMax`. -/
def addWei (a b : Wei) : Wei := min weiMax (a + b)

/-- An amount up to a limit, if there is one. -/
def limited (limit : Option Wei) (a : Wei) : Wei :=
  match limit with
  | some l => min a l
  | none => a

namespace DynamicFeeSettings

/-- The tip suggested by a reward. -/
def suggestedTip (s : DynamicFeeSettings) (reward : Wei) : Wei := s.tipRate.apply reward

/-- The fee cap suggested by a reward and a base fee. -/
def suggestedFee (s : DynamicFeeSettings) (reward baseFee : Wei) : Wei :=
  addWei (s.suggestedTip reward) (s.baseFeeRate.apply baseFee)

end DynamicFeeSettings

/-- Prices a transaction with dynamic fees by a reward and a base fee. -/
def dynamicPricing (s : DynamicFeeSettings) (pending : Option PendingTransaction) (floors : Floors)
    (reward baseFee : Wei) : Except DeliveryError Pricing :=
  let tip := s.suggestedTip reward
  let fee := s.suggestedFee reward baseFee
  match pending.filter fun t => tip < t.tipCap && fee < t.feeCap with
  | some t => .error (.staleDynamicFee t.tipCap t.feeCap tip fee)
  | none =>
    let tipCap := limited s.tipLimit (max tip floors.tipCap)
    let feeCap := limited s.feeLimit (max fee floors.feeCap)
    if feeCap < tipCap then .error (.configuration (.feeCapBelowTip feeCap tipCap))
    else .ok (.dynamic tipCap feeCap)

/-! ## Asking the node -/

/-- The reward and the base fee in a fee history of one block; none if the reward is zero. -/
def FeeHistory.sample? (h : FeeHistory) : Option (Wei × Wei) :=
  let reward := ((h.rewards.bind List.head?).bind List.head?).getD 0
  if reward = 0 then none else some (reward, h.baseFees.head?.getD 0)

namespace Delivery

variable {σ : Type}

/-- A result that needs no query. -/
def lift {α : Type} (x : Except DeliveryError α) : Run σ DeliveryError α :=
  Session.step fun s => (x, s)

/-- Queries the node. -/
def query [Node σ] (token : CancelToken) (q : Query) : Run σ DeliveryError q.Answer :=
  ExceptT.adapt .ofNode (Session.ask token q)

/-- Looks for a reward in a block and, where there is none, in up to `left` blocks before it. -/
def sampleFrom [Node σ] (token : CancelToken) (s : DynamicFeeSettings) :
    (left block : Nat) → Run σ DeliveryError (Wei × Wei)
  | left, block => do
    let history : FeeHistory ← query token (.feeHistory 1 block [s.percentile])
    match history.sample? with
    | some sample => pure sample
    | none => match left, block with
      | left + 1, block + 1 => sampleFrom token s left block
      | _, _ => throw (.feeHistoryUnavailable (min (s.retries + 1) ((1 <<< 32) - 1)))

/-- Looks for a reward from the latest block back. -/
def sampleFees [Node σ] (token : CancelToken) (s : DynamicFeeSettings) :
    Run σ DeliveryError (Wei × Wei) := do
  let latest : Nat ← query token .blockNumber
  sampleFrom token s s.retries latest

/-- The pending transaction of the sender with a nonce; it only matters where a replacement has to
    be dearer. -/
def pendingAt [Node σ] (token : CancelToken) (s : TransactionSettings) (sender : Address)
    (nonce : Option Nat) : Run σ DeliveryError (Option PendingTransaction) := do
  match s.priceBump, nonce with
  | some _, some nonce => do
    let pending : List PendingTransaction ← query token (.pendingTransactions sender)
    pure (pending.find? fun t => t.nonce == nonce)
  | _, _ => pure none

/-- Prices a transaction of the sender, which may replace the pending one with its nonce. -/
def gasPricing [Node σ] (token : CancelToken) (s : TransactionSettings) (sender : Address)
    (nonce : Option Nat) : Run σ DeliveryError Pricing := do
  let pending ← pendingAt token s sender nonce
  let floors := Floors.replacing pending s.priceBump
  match s.kind with
  | .legacy => do
    let suggested : Nat ← query token .gasPrice
    lift (legacyPricing pending floors suggested)
  | .dynamic => do
    let (reward, baseFee) ← sampleFees token s.dynamic
    lift (dynamicPricing s.dynamic pending floors reward baseFee)

end Delivery

end PacketRelay
