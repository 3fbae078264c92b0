/-
  Operations on a running relayer.

  A `Session` holds the state of the node and the counterparty, the clock, the calls made so far and
  what the relayer remembers itself.  An operation of type `Run σ ε α` changes it and ends in a
  result or in an error, keeping the changes made so far.

  * `Session.pause` waits, `Session.ask` queries the node and `Session.askCounterparty` the
    counterparty.  Each of them first looks at the cancellation token and then waits until it is
    done or the token fires; a query that is given up has no effect.
-/
import PacketRelay.Discovery.Error
import PacketRelay.Storage.Checkpoint

namespace PacketRelay

/-! ## The counterparty -/

/-- What the chain at the other end can be asked. -/
inductive CounterpartyQuery where
  | latestFinalizedHeight
  /-- Which of the packets have not been received at a height. -/
  | unreceivedPackets (height : Nat) (sequences : List Nat)
  /-- Which of the acknowledgements have not been received at a height. -/
  | unreceivedAcknowledgements (height : Nat) (sequences : List Nat)
deriving Repr, DecidableEq

/-- What a query is answered with. -/
def CounterpartyQuery.Answer : CounterpartyQuery → Type
  | latestFinalizedHeight => Nat
  | unreceivedPackets .. | unreceivedAcknowledgements .. => List Nat

/-- The behaviour of the chain at the other end. -/
class Counterparty (σ : Type) where
  /-- How long a query takes. -/
  delay : σ → CounterpartyQuery → Nat
  /-- The answer to a query, and the state after it. -/
  reply : (q : CounterpartyQuery) → σ → Except DiscoveryError q.Answer × σ

/-! ## Sessions -/

/-- A call made to one of the peers. -/
inductive Call where
  | node (q : Query)
  | counterparty (q : CounterpartyQuery)

/-- The state in which operations run. -/
structure Session (σ : Type) where
  /-- The state of the peers. -/
  peers : σ
  now : Instant
  /-- The calls made so far, with the instants at which they were started. -/
  calls : List (Instant × Call)
  checkpoints : Checkpoints
  /-- Whether the channel has been seen open. -/
  channelOpen : Bool

/-- An operation. -/
abbrev Run (σ ε α : Type) : Type := ExceptT ε (StateM (Session σ)) α

namespace Session

variable {σ : Type}

/-- Notes a call. -/
def record (s : Session σ) (c : Call) : Session σ := { s with calls := s.calls ++ [(s.now, c)] }

/-- An operation given by what it does to a session. -/
def step {ε α : Type} (f : Session σ → Except ε α × Session σ) : Run σ ε α :=
  ExceptT.mk fun s => f s

/-- Runs an operation. -/
def run {ε α : Type} (x : Run σ ε α) (s : Session σ) : Except ε α × Session σ := ExceptT.run x s

/-- Looks at a token. -/
def check (token : CancelToken) : Run σ CancelReason Unit :=
  step fun s => match token.check s.now with
    | some reason => (.error reason, s)
    | none => (.ok (), s)

/-- Waits, unless the token fires first. -/
def pause (token : CancelToken) (length : Nat) : Run σ CancelReason Unit := do
  check token
  step fun s => match token.interruption? s.now length with
    | some (instant, reason) => (.error reason, { s with now := instant })
    | none => (.ok (), { s with now := s.now + length })

/-- Queries the node, unless the token fires first. -/
def ask [Node σ] (token : CancelToken) (q : Query) : Run σ NodeError q.Answer := do
  ExceptT.adapt .cancelled (check token)
  step fun s =>
    let s := s.record (.node q)
    let delay := Node.delay s.peers q
    match token.interruption? s.now delay with
    | some (instant, reason) => (.error (.cancelled reason), { s with now := instant })
    | none =>
      let (answer, peers) := Node.reply q s.peers
      (answer, { s with peers, now := s.now + delay })

/-- Queries the counterparty, unless the token fires first. -/
def askCounterparty [Counterparty σ] (token : CancelToken) (q : CounterpartyQuery) :
    Run σ DiscoveryError q.Answer := do
  ExceptT.adapt .cancelled (check token)
  step fun s =>
    let s := s.record (.counterparty q)
    let delay := Counterparty.delay s.peers q
    match token.interruption? s.now delay with
    | some (instant, reason) => (.error (.cancelled reason), { s with now := instant })
    | none =>
      let (answer, peers) := Counterparty.reply q s.peers
      (answer, { s with peers, now := s.now + delay })

end Session

end PacketRelay
