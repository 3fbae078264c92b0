/-
  Peers that follow a script.

  * A `ScriptedNode` answers queries from lists of prepared answers and may fail or delay the
    queries of a method; a `NodeScript` changes what it has prepared;
  * a `ScriptedCounterparty` lists either fixed sequences or all it is asked for;
  * `ScriptedPeers` are both together;
  * `Account.readable` signs by writing down what it is asked to sign.
-/
import PacketRelay.Account
import PacketRelay.Session

namespace PacketRelay

/-- The name by which a query is scripted. -/
def Query.method : Query → String
  | logs _ => "get_logs"
  | call .. => "call"
  | blockNumber => "block_number"
  | gasPrice => "suggest_gas_price"
  | feeHistory .. => "fee_history"
  | pendingTransactions _ => "pending_transactions_from"
  | receipt _ => "transaction_receipt"
  | transaction _ => "transaction_by_hash"
  | pendingNonce _ => "pending_nonce"
  | revertData .. => "revert_data"
  | send _ => "send_raw_transaction"

/-- The name by which a query is scripted. -/
def CounterpartyQuery.method : CounterpartyQuery → String
  | latestFinalizedHeight => "latest_finalized_height"
  | unreceivedPackets .. => "query_unreceived_packets"
  | unreceivedAcknowledgements .. => "query_unreceived_acknowledgements"

/-! ## Queues of answers -/

/-- Answers by hash, to be given one after the other. -/
abbrev Queues (α : Type) := List (Hash × List α)

namespace Queues

variable {α : Type}

/-- Adds an answer at the end of a queue. -/
def push (hash : Hash) (a : α) : Queues α → Queues α
  | [] => [(hash, [a])]
  | (h, as) :: rest => if h = hash then (h, as ++ [a]) :: rest else (h, as) :: push hash a rest

/-- The next answer of a queue; the last one stays. -/
def pop (hash : Hash) : Queues α → Option α × Queues α
  | [] => (none, [])
  | (h, as) :: rest =>
    if h = hash then match as with
      | a :: b :: more => (some a, (h, b :: more) :: rest)
      | as => (as.head?, (h, as) :: rest)
    else
      let (a, rest) := pop hash rest
      (a, (h, as) :: rest)

end Queues

/-! ## The node -/

/-- A node that answers from prepared lists. -/
structure ScriptedNode where
  blockNumber : Nat := 0
  gasPrice : Wei := 0
  feeHistory : List (Nat × FeeHistory) := []
  pending : List PendingTransaction := []
  nonces : List (Address × Nat) := []
  receipts : Queues (Except NodeError (Option Receipt)) := []
  transactions : Queues (Except NodeError (Option Transaction)) := []
  revertData : List (Hash × Bytes) := []
  /-- Whether sent transactions are included at once, and with which outcome. -/
  autoMine : Option Bool := none
  logs : List Log := []
  contract : List ((Address × Bytes) × Bytes) := []
  failures : List (String × Option NodeError) := []
  delays : List (String × Nat) := []

/-- What is to be changed; later entries of a list count more than earlier ones where only one can
    count. -/
structure NodeScript where
  blockNumber : Option Nat := none
  gasPrice : Option Wei := none
  feeHistory : List (Nat × FeeHistory) := []
  pending : List PendingTransaction := []
  nonces : List (Address × Nat) := []
  receipts : List (Hash × Except NodeError (Option Receipt)) := []
  transactions : List (Hash × Except NodeError (Option Transaction)) := []
  revertData : List (Hash × Bytes) := []
  autoMine : Option (Option Bool) := none
  logs : List Log := []
  contract : List ((Address × Bytes) × Bytes) := []
  failures : List (String × Option NodeError) := []
  delays : List (String × Nat) := []

namespace ScriptedNode

/-- The node after a change. -/
def change (n : ScriptedNode) (c : NodeScript) : ScriptedNode where
  blockNumber := c.blockNumber.getD n.blockNumber
  gasPrice := c.gasPrice.getD n.gasPrice
  feeHistory := c.feeHistory.reverse ++ n.feeHistory
  pending := n.pending ++ c.pending
  nonces := c.nonces.reverse ++ n.nonces
  receipts := c.receipts.foldl (fun qs (h, a) => Queues.push h a qs) n.receipts
  transactions := c.transactions.foldl (fun qs (h, a) => Queues.push h a qs) n.transactions
  revertData := c.revertData.reverse ++ n.revertData
  autoMine := c.autoMine.getD n.autoMine
  logs := n.logs ++ c.logs
  contract := c.contract.reverse ++ n.contract
  failures := c.failures.reverse ++ n.failures
  delays := c.delays.reverse ++ n.delays

/-- Whether a log belongs into the answer to a query; a log without a block counts as one of
    block zero. -/
def isAsked (q : LogQuery) (log : Log) : Bool :=
  log.address == q.address && log.topics.head? == some q.topic &&
    q.first ≤ log.block.getD 0 && log.block.getD 0 ≤ q.last

/-- The node after a transaction has been sent. -/
def mine (n : ScriptedNode) (hash : Hash) : ScriptedNode :=
  match n.autoMine with
  | none => n
  | some success =>
    let receipt : Receipt := ⟨hash, n.blockNumber + 1, success, 21000⟩
    { n with receipts := Queues.push hash (.ok (some receipt)) n.receipts }

/-- The answer to a query that does not fail, and the node after it. -/
def answer (n : ScriptedNode) : (q : Query) → Except NodeError q.Answer × ScriptedNode
  | .logs q => (.ok (n.logs.filter (isAsked q)), n)
  | .call target input _ => match n.contract.lookup (target, input) with
    | some output => (.ok output, n)
    | none => (.error (.transport "execution reverted"), n)
  | .blockNumber => (.ok n.blockNumber, n)
  | .gasPrice => (.ok n.gasPrice, n)
  | .feeHistory _ last _ => (.ok ((n.feeHistory.lookup last).getD ⟨some [[0]], [0, 0]⟩), n)
  | .pendingTransactions _ => (.ok n.pending, n)
  | .receipt hash =>
    let (a, receipts) := Queues.pop hash n.receipts
    (a.getD (.ok none), { n with receipts })
  | .transaction hash =>
    let (a, transactions) := Queues.pop hash n.transactions
    (a.getD (.ok none), { n with transactions })
  | .pendingNonce account => (.ok ((n.nonces.lookup account).getD 0 : Nat), n)
  | .revertData hash _ => (.ok (n.revertData.lookup hash), n)
  | .send raw =>
    let hash := keccak256 raw
    (.ok hash, n.mine hash)

/-- The answer to a query, and the node after it. -/
def reply (q : Query) (n : ScriptedNode) : Except NodeError q.Answer × ScriptedNode :=
  match n.failures.lookup q.method with
  | some (some e) => (.error e, n)
  | _ => n.answer q

end ScriptedNode

/-! ## The counterparty -/

/-- A counterparty with prepared answers. -/
structure ScriptedCounterparty where
  finalized : Nat := 900
  /-- What is listed as not received; all that is asked for when absent. -/
  unreceived : Option (List Nat) := none
  failures : List (String × DiscoveryError) := []
  delays : List (String × Nat) := []

/-- The answer to a query. -/
def ScriptedCounterparty.reply (c : ScriptedCounterparty) (q : CounterpartyQuery) :
    Except DiscoveryError q.Answer :=
  match c.failures.lookup q.method with
  | some e => .error e
  | none => match q with
    | .latestFinalizedHeight => .ok c.finalized
    | .unreceivedPackets _ sequences => .ok (c.unreceived.getD sequences)
    | .unreceivedAcknowledgements _ sequences => .ok (c.unreceived.getD sequences)

/-! ## Both peers -/

/-- A node and a counterparty. -/
structure ScriptedPeers where
  node : ScriptedNode := {}
  counterparty : ScriptedCounterparty := {}

instance : Node ScriptedPeers where
  delay p q := (p.node.delays.lookup q.method).getD 0
  reply q p :=
    let (a, node) := p.node.reply q
    (a, { p with node })

instance : Counterparty ScriptedPeers where
  delay p q := (p.counterparty.delays.lookup q.method).getD 0
  reply q p := (p.counterparty.reply q, p)

/-! ## An account -/

namespace TransactionRequest

/-- A field that may be absent. -/
def fieldText {α : Type} (f : α → String) : Option α → String
  | some a => f a
  | none => "-"

/-- The fields of a request with bars between them. -/
def readable (r : TransactionRequest) : String :=
  String.intercalate "|" ["signed",
    fieldText (fun | .create => "create" | .call a => Hex.text a.bytes) r.recipient,
    fieldText Decimal.text r.nonce, fieldText Decimal.text r.gas,
    fieldText Decimal.text r.gasPrice, fieldText Decimal.text r.feeCap,
    fieldText Decimal.text r.tipCap, fieldText Decimal.text r.value, fieldText Hex.text r.input]

end TransactionRequest

/-- An account whose signed transactions are texts, or that refuses to sign for a reason. -/
def Account.readable (address : Address) (chainId : Nat) (refusal : Option String) : Account :=
  ⟨address, chainId, fun r => match refusal with
    | some reason => .error (.refused reason)
    | none => .ok (utf8 r.readable)⟩

end PacketRelay
