/-
  Sending transactions and following them to their receipts.

  A `Sender` owns an account and knows contract errors.

  * `waitForReceipt` asks for a receipt in fixed intervals.  The receipt of a failed transaction
    becomes an error with the reason the contract gave;
  * `sendTransaction` completes a request, prices and signs it, sends it and waits.
-/
import PacketRelay.Delivery.Pricing
import PacketRelay.Revert.Catalog

namespace PacketRelay

namespace TransactionRequest

/-- The request with a price; the fields of another kind of price are cleared. -/
def priced (r : TransactionRequest) : Pricing → TransactionRequest
  | .legacy gasPrice => { r with gasPrice := some gasPrice, tipCap := none, feeCap := none }
  | .dynamic tipCap feeCap =>
    { r with gasPrice := none, tipCap := some tipCap, feeCap := some feeCap }

/-- The request with a nonce, a gas limit and a price. -/
def completed (r : TransactionRequest) (nonce gas : Nat) (p : Pricing) : TransactionRequest :=
  priced { r with nonce := some nonce, gas := some gas } p

end TransactionRequest

/-- Milliseconds in a number of seconds. -/
def seconds (n : Nat) : Nat := n * 1000

/-- From how many seconds on the clock does not reach. -/
def clockLimit : Nat := 1 <<< 63

/-- How long a pause of some seconds takes: one that the clock does not reach takes thirty years. -/
def pauseLength (n : Nat) : Nat := seconds (if n < clockLimit then n else 86400 * 365 * 30)

/-- An account that sends transactions, the contract errors it knows, and its settings. -/
structure Sender where
  account : Account
  errors : ErrorCatalog
  settings : TransactionSettings

namespace Sender

open Delivery

variable {σ : Type}

/-- The outcome of an operation, be it an error. -/
def outcomeOf {ε α : Type} (x : Run σ ε α) : Run σ DeliveryError (Except ε α) :=
  Session.step fun s =>
    let (r, s) := Session.run x s
    (.ok r, s)

/-- Pauses for some seconds. -/
def rest (token : CancelToken) (n : Nat) : Run σ DeliveryError Unit :=
  ExceptT.adapt .cancelled (Session.pause token (pauseLength n))

/-! ## Receipts -/

/-- The reason in what a failed transaction returned: that of a known error, or the bytes. -/
def reasonIn (errors : ErrorCatalog) (data : Bytes) : String :=
  match errors.decodeText data with
  | .ok reason => reason
  | .error _ => Hex.text data

/-- What stands for a reason that the node does not give. -/
def noReason : String := "revert data unavailable"

/-- The reason why a transaction has failed. -/
def revertReason [Node σ] (s : Sender) (token : CancelToken) (r : Receipt) :
    Run σ DeliveryError String := do
  match ← outcomeOf (Session.ask token (.revertData r.transactionHash r.blockNumber)) with
  | .ok (some data) => pure (reasonIn s.errors data)
  | .ok none => pure noReason
  | .error (.cancelled reason) => throw (.cancelled reason)
  | .error e => pure (noReason ++ ": " ++ e.message)

/-- Takes a receipt as the outcome of its transaction. -/
def checkReceipt [Node σ] (s : Sender) (token : CancelToken) (r : Receipt) :
    Run σ DeliveryError Receipt := do
  if r.success then pure r
  else do
    let reason ← s.revertReason token r
    throw (.reverted r.transactionHash reason)

/-- What one look for a receipt has found: the receipt, or why there is none yet. -/
def receiptIn (hash : Hash) : Except NodeError (Option Receipt) → Except DeliveryError Receipt
  | .ok (some r) => .ok r
  | .ok none => .error (.notFound (.receipt hash))
  | .error e => .error (.ofNode e)

/-- Looks for a receipt.  That there is none yet is no failure. -/
def lookForReceipt [Node σ] (token : CancelToken) (hash : Hash) :
    Run σ DeliveryError (Except DeliveryError Receipt) := do
  ExceptT.adapt .cancelled (Session.check token)
  match receiptIn hash (← outcomeOf (Session.ask token (.receipt hash))) with
  | .error (.cancelled reason) => throw (.cancelled reason)
  | found => pure found

/-- Looks for a receipt and, where there is none, `left` more times. -/
def pollReceipt [Node σ] (s : Sender) (token : CancelToken) (hash : Hash) :
    (left : Nat) → Run σ DeliveryError Receipt
  | 0 => do
    match ← lookForReceipt token hash with
    | .ok r => s.checkReceipt token r
    | .error e => throw e
  | left + 1 => do
    match ← lookForReceipt token hash with
    | .ok r => s.checkReceipt token r
    | .error _ => do
      rest token s.settings.receipt.intervalSecs
      pollReceipt s token hash left

/-- Waits for the receipt of a transaction.  At least one look is taken. -/
def waitForReceipt [Node σ] (s : Sender) (token : CancelToken) (hash : Hash) :
    Run σ DeliveryError Receipt :=
  s.pollReceipt token hash (s.settings.receipt.attempts - 1)

/-! ## Sending -/

/-- Sends a signed transaction. -/
def submit [Node σ] (token : CancelToken) (raw : Bytes) : Run σ DeliveryError Hash :=
  query token (.send raw)

/-- Sends a signed transaction and waits for its receipt. -/
def sendAndWait [Node σ] (s : Sender) (token : CancelToken) (raw : Bytes) :
    Run σ DeliveryError Receipt := do
  let hash : Hash ← submit token raw
  s.waitForReceipt token hash

/-- Signs a request. -/
def sign (s : Sender) (r : TransactionRequest) : Run σ DeliveryError Bytes :=
  lift ((s.account.sign r).mapError .signing)

/-- Prices a transaction of the account. -/
def gasPricing [Node σ] (s : Sender) (token : CancelToken) (nonce : Option Nat) :
    Run σ DeliveryError Pricing :=
  Delivery.gasPricing token s.settings s.account.address nonce

/-- The nonce of a request, or the next one of the account. -/
def nonceFor [Node σ] (s : Sender) (token : CancelToken) (r : TransactionRequest) :
    Run σ DeliveryError Nat :=
  match r.nonce with
  | some nonce => pure nonce
  | none => query token (.pendingNonce s.account.address)

/-- The gas limit of a request, or the one that is set. -/
def gasFor (s : Sender) (r : TransactionRequest) : Except DeliveryError Nat :=
  match r.gas.or s.settings.gasLimit with
  | some gas => .ok gas
  | none => .error (.configuration .noGasLimit)

/-- Completes, prices and signs a request, sends it and waits for its receipt. -/
def sendTransaction [Node σ] (s : Sender) (token : CancelToken) (r : TransactionRequest) :
    Run σ DeliveryError Receipt := do
  let nonce ← s.nonceFor token r
  let gas ← lift (s.gasFor r)
  let pricing ← s.gasPricing token (some nonce)
  let raw ← s.sign (r.completed nonce gas pricing)
  s.sendAndWait token raw

end Sender

end PacketRelay
