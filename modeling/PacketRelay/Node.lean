/-
  The node a relayer talks to.

  * `Query` is what a node can be asked and `Query.Answer` what it answers;
  * `NodeError` is how a query fails;
  * `Node` is the behaviour of a node: how long a query takes, and what it answers and becomes.
-/
import PacketRelay.Binary64
import PacketRelay.Cancellation
import PacketRelay.Transaction

namespace PacketRelay

/-! ## Errors -/

/-- Why a query has failed. -/
inductive NodeError where
  | transport (text : String)
  /-- The answer makes no sense. -/
  | invalidResponse (text : String)
  | cancelled (reason : CancelReason)
deriving Repr, DecidableEq

/-- The wording of an error. -/
def NodeError.message : NodeError → String
  | transport text => "Transport error: " ++ text
  | invalidResponse text => "Invalid response: " ++ text
  | cancelled reason => reason.message

/-! ## Queries and answers -/

/-- An event a contract has written; the block is absent while the event is pending. -/
structure Log where
  address : Address
  topics : List Hash
  data : Bytes
  block : Option Nat
deriving DecidableEq

/-- The events of a contract with a first topic in a range of blocks, both ends included. -/
structure LogQuery where
  address : Address
  topic : Hash
  first : Nat
  last : Nat
deriving DecidableEq

/-- The fees of a range of blocks: by block the rewards at the asked percentiles, and the base
    fees. -/
structure FeeHistory where
  rewards : Option (List (List Wei))
  baseFees : List Wei
deriving DecidableEq

/-- What a node can be asked. -/
inductive Query where
  | logs (q : LogQuery)
  /-- A call of a contract at a block, or at the latest one. -/
  | call (contract : Address) (input : Bytes) (block : Option Nat)
  | blockNumber
  | gasPrice
  | feeHistory (count last : Nat) (percentiles : List Binary64)
  | pendingTransactions (sender : Address)
  | receipt (hash : Hash)
  | transaction (hash : Hash)
  /-- The next nonce of an account, pending transactions counted. -/
  | pendingNonce (account : Address)
  /-- What a failed transaction returned. -/
  | revertData (hash : Hash) (block : Nat)
  | send (raw : Bytes)

/-- What a query is answered with. -/
def Query.Answer : Query → Type
  | logs _ => List Log
  | call .. => Bytes
  | send _ => Hash
  | blockNumber | gasPrice | pendingNonce _ => Nat
  | feeHistory .. => FeeHistory
  | pendingTransactions _ => List PendingTransaction
  | receipt _ => Option Receipt
  | transaction _ => Option Transaction
  | revertData .. => Option Bytes

/-- The behaviour of a node with states `σ`. -/
class Node (σ : Type) where
  /-- How long a query takes. -/
  delay : σ → Query → Nat
  /-- The answer to a query, and the state after it. -/
  reply : (q : Query) → σ → Except NodeError q.Answer × σ

end PacketRelay
