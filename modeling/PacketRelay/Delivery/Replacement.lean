/-
  Replacing transactions that are stuck.

  * `bumpFees` raises the fees of a pending transaction by fixed increments up to maxima;
  * `Sender.replaceStuck` looks at a transaction in fixed intervals and replaces it once it has been
    pending for longer than a threshold.
-/
import PacketRelay.Delivery.Submission

namespace PacketRelay

/-! ## Raised fees -/

/-- A fee raised by an increment, unless it gets above a maximum. -/
def raised (field : FeeField) (current increment maximum : Wei) : Except DeliveryError Wei :=
  let value := addWei current increment
  if maximum < value then .error (.configuration (.aboveMaximum field value maximum))
  else .ok value

/-- The request that replaces a transaction. -/
def bumpFees (t : Transaction) (b : FeeBounds) : Except DeliveryError TransactionRequest :=
  if t.type = legacyType ∨ t.type = accessListType then do
    let gasPrice ← raised .gasPrice (t.request.gasPrice.getD 0) b.gasPriceIncrement b.maxGasPrice
    pure { t.request with gasPrice := some gasPrice }
  else if t.type = dynamicFeeType ∨ t.type = blobType then do
    let tipCap ← raised .tipCap (t.request.tipCap.getD 0) b.tipCapIncrement b.maxTipCap
    let feeCap ← raised .feeCap (t.request.feeCap.getD 0) b.feeCapIncrement b.maxFeeCap
    pure { t.request with tipCap := some tipCap, feeCap := some feeCap }
  else .error (.configuration (.irreplaceable t.type))

/-! ## The watch -/

/-- How a watch has ended. -/
inductive ReplacementOutcome where
  /-- The transaction has been included as it was. -/
  | mined
  | replaced (r : Receipt)
deriving DecidableEq

namespace Sender

open Delivery

variable {σ : Type}

/-- Replaces a transaction and waits for the receipt. -/
def replace [Node σ] (s : Sender) (token : CancelToken) (t : Transaction) (b : FeeBounds) :
    Run σ DeliveryError Receipt := do
  let request ← lift (bumpFees t b)
  let raw ← s.sign request
  s.sendAndWait token raw

/-- The clock. -/
def now : Run σ DeliveryError Instant := Session.step fun s => (.ok s.now, s)

/-- The clock, when it has reached an instant. -/
def nowFrom (instant : Instant) : Run σ DeliveryError { time : Instant // instant ≤ time } :=
  Session.step fun s => (.ok ⟨max instant s.now, Nat.le_max_left instant s.now⟩, s)

/-- Waits for an instant, which may have passed. -/
def waitUntil (token : CancelToken) (instant : Instant) : Run σ DeliveryError Unit := do
  let start ← now
  ExceptT.adapt .cancelled (Session.pause token (instant - start))

/-- Looks at a transaction at an instant; none when it is no longer pending. -/
def lookAt [Node σ] (token : CancelToken) (hash : Hash) (instant : Instant) :
    Run σ DeliveryError (Option Transaction) := do
  waitUntil token instant
  let found : Option Transaction ← query token (.transaction hash)
  match found with
  | none => throw (.notFound (.transaction hash))
  | some t => pure (if t.block.isSome then none else some t)

/-- Replaces a transaction, as the end of a watch. -/
def finish [Node σ] (s : Sender) (token : CancelToken) (t : Transaction) (b : FeeBounds) :
    Run σ DeliveryError ReplacementOutcome := do
  let receipt ← s.replace token t b
  pure (.replaced receipt)

/-- What is left of a watch up to its threshold becomes less when another look follows. -/
theorem left_lt {since instant time threshold interval : Nat} (positive : 0 < interval)
    (reached : instant ≤ time) (waiting : time - since ≤ threshold) :
    since + threshold + 1 - (instant + interval * 1000) < since + threshold + 1 - instant := by
  omega

/-- Looks at a transaction at an instant and, as long as it has not been pending for longer than the
    threshold, again after the next interval. -/
def watch [Node σ] (s : Sender) (r : ReplaceSettings) (positive : r.checkSecs ≠ 0)
    (token : CancelToken) (hash : Hash) (since instant : Instant) :
    Run σ DeliveryError ReplacementOutcome := do
  match ← lookAt token hash instant with
  | none => pure .mined
  | some t => do
    let time ← nowFrom instant
    if _ : time - since ≤ seconds r.pendingSecs then
      watch s r positive token hash since (instant + seconds r.checkSecs)
    else s.finish token t r.bounds
termination_by since + seconds r.pendingSecs + 1 - instant
decreasing_by exact left_lt (Nat.pos_of_ne_zero positive) time.2 ‹_›

/-- Watches a transaction that has been pending since an instant and replaces it when it is
    stuck. -/
def replaceStuck [Node σ] (s : Sender) (token : CancelToken) (hash : Hash) (since : Instant) :
    Run σ DeliveryError ReplacementOutcome := do
  match s.settings.replace with
  | none => throw (.configuration .noReplacement)
  | some r =>
    if zero : r.checkSecs = 0 then throw (.configuration .zeroInterval)
    else if clockLimit ≤ r.checkSecs then throw .clockOverflow
    else do
      let start ← now
      s.watch r zero token hash since (start + seconds r.checkSecs)

end Sender

end PacketRelay
