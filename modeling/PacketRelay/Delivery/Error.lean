/-
  Why a transaction is not delivered.
-/
import PacketRelay.Account
import PacketRelay.Node

namespace PacketRelay

/-- What the node does not know about. -/
inductive Missing where
  | receipt (hash : Hash)
  | transaction (hash : Hash)
deriving DecidableEq

/-- How the node is named. -/
def Missing.text : Missing → String
  | receipt hash => "receipt for " ++ Hex.text hash.bytes
  | transaction hash => "transaction " ++ Hex.text hash.bytes

/-- A fee of a transaction. -/
inductive FeeField where
  | gasPrice
  | tipCap
  | feeCap
deriving Repr, DecidableEq

/-- How a fee is named. -/
def FeeField.text : FeeField → String
  | gasPrice => "gas price"
  | tipCap => "gas tip cap"
  | feeCap => "gas fee cap"

/-- Settings or requests that lead to no valid transaction. -/
inductive DeliveryFault where
  | feeCapBelowTip (feeCap tipCap : Wei)
  | aboveMaximum (field : FeeField) (value maximum : Wei)
  | irreplaceable (type : Nat)
  | noGasLimit
  | noReplacement
  | zeroInterval
  | invalidUrl
deriving Repr, DecidableEq

/-- The wording of a fault. -/
def DeliveryFault.message : DeliveryFault → String
  | feeCapBelowTip feeCap tipCap =>
    "fee cap " ++ Decimal.text feeCap ++ " is below tip cap " ++ Decimal.text tipCap
  | aboveMaximum field value maximum =>
    field.text ++ " " ++ Decimal.text value ++ " exceeds configured maximum " ++
      Decimal.text maximum
  | irreplaceable type => "cannot replace transaction of type " ++ Decimal.text type
  | noGasLimit => "no gas limit on request and no tx.gas_limit configured"
  | noReplacement => "tx.replace must be configured to replace transactions"
  | zeroInterval => "tx.replace.check_interval_secs must be positive"
  | invalidUrl => "Invalid RPC URL"

/-- Why a transaction is not delivered. -/
inductive DeliveryError where
  | transport (text : String)
  | notFound (what : Missing)
  /-- A pending transaction pays more than the node suggests. -/
  | staleGasPrice (pending suggested : Wei)
  /-- A pending transaction has a higher tip and a higher fee cap than the node suggests. -/
  | staleDynamicFee (pendingTip pendingFee tip fee : Wei)
  | feeHistoryUnavailable (blocks : Nat)
  /-- The transaction has been included but has failed. -/
  | reverted (hash : Hash) (reason : String)
  | configuration (fault : DeliveryFault)
  | signing (e : AccountError)
  | cancelled (reason : CancelReason)
  /-- The next check lies beyond the end of the clock. -/
  | clockOverflow
deriving DecidableEq

namespace DeliveryError

/-- The wording of an error. -/
def message : DeliveryError → String
  | transport text => "Transport error: " ++ text
  | notFound what => "Not found: " ++ what.text
  | staleGasPrice pending suggested =>
    "Stale gas price: pending transaction pays " ++ Decimal.text pending ++ ", node suggests " ++
      Decimal.text suggested
  | staleDynamicFee pendingTip pendingFee tip fee =>
    "Stale dynamic fee: pending transaction pays tip cap " ++ Decimal.text pendingTip ++
      " and fee cap " ++ Decimal.text pendingFee ++ ", suggested " ++ Decimal.text tip ++ " and " ++
      Decimal.text fee
  | feeHistoryUnavailable blocks =>
    "No usable fee history after sampling " ++ Decimal.text blocks ++ " blocks"
  | reverted hash reason => "Transaction " ++ Hex.text hash.bytes ++ " reverted: " ++ reason
  | configuration fault => "Configuration error: " ++ fault.message
  | signing e => "Signing failed: " ++ e.message
  | cancelled reason => reason.message
  | clockOverflow => "overflow when adding duration to instant"

/-- A failed query of the node; an answer without sense counts as a failed transport. -/
def ofNode : NodeError → DeliveryError
  | .transport text | .invalidResponse text => transport text
  | .cancelled reason => cancelled reason

end DeliveryError

end PacketRelay
