/-
  The search for packets that still have to be relayed.

  A `Scanner` watches one channel of the messaging contract.

  * `unrelayedPackets` finds the sent packets whose commitment stands and which the counterparty has
    not received, `unrelayedAcknowledgements` the received packets whose acknowledgement it has not
    received.  Both scan from the checkpoint of their direction to a target and then move the
    checkpoint to the first packet found, or past the target when there is none; an error leaves it
    where it was;
  * `isChannelOpen` asks for the state of the channel and remembers an open one.
-/
import PacketRelay.Discovery.Event
import PacketRelay.Discovery.Window
import PacketRelay.Session

namespace PacketRelay

/-- What is scanned: the contract, the channel, and how many blocks one query covers. -/
structure Scanner where
  contract : Address
  path : ChannelPath
  blocksPerQuery : Nat

namespace Scanner

variable {σ : Type}

/-- A result that needs no query. -/
def lift {ε α : Type} (x : Except ε α) : Run σ ε α := Session.step fun s => (x, s)

/-- Queries the node. -/
def query [Node σ] (token : CancelToken) (q : Query) : Run σ DiscoveryError q.Answer :=
  ExceptT.adapt .ofNode (Session.ask token q)

/-! ## Logs -/

/-- The logs of an event in windows, window by window. -/
def windowLogs [Node σ] (k : Scanner) (token : CancelToken) (topic : Hash) :
    List (Nat × Nat) → Run σ DiscoveryError (List Log)
  | [] => pure []
  | (first, last) :: rest => do
    let logs : List Log ← query token (.logs ⟨k.contract, topic, first, last⟩)
    let more ← windowLogs k token topic rest
    pure (logs ++ more)

/-- The logs of an event in a range of blocks. -/
def scanLogs [Node σ] (k : Scanner) (token : CancelToken) (event : Contract.Event)
    (first last : Nat) : Run σ DiscoveryError (List Log) :=
  k.windowLogs token event.topic (scanWindows first last k.blocksPerQuery)

/-! ## Sent packets -/

/-- The packets sent on the channel among the logs. -/
def sentPackets (k : Scanner) (logs : List Log) : Except DiscoveryError (List Packet) := do
  let packets ← logs.mapM (Contract.sentPacket k.path)
  pure (packets.filter fun p =>
    p.sourcePort == k.path.own.port && p.sourceChannel == k.path.own.channel)

/-- The commitment of a packet at a block; it is zero when there is none. -/
def commitment [Node σ] (k : Scanner) (token : CancelToken) (sequence height : Nat) :
    Run σ DiscoveryError Hash := do
  let key := Contract.commitmentKey k.path.own.port k.path.own.channel sequence
  let answer ← query token (.call k.contract (Contract.commitmentInput key) (some height))
  lift (Contract.commitmentOf answer)

/-- Keeps the packets that have a commitment at a block. -/
def keepCommitted [Node σ] (k : Scanner) (token : CancelToken) (height : Nat) :
    List Packet → Run σ DiscoveryError (List Packet)
  | [] => pure []
  | p :: rest => do
    let c ← k.commitment token p.sequence height
    let more ← keepCommitted k token height rest
    pure (if c.isZero then more else p :: more)

/-- The packets sent on the channel in a range of blocks whose commitment stands at its end. -/
def committedPackets [Node σ] (k : Scanner) (token : CancelToken) (first last : Nat) :
    Run σ DiscoveryError (List Packet) := do
  let logs ← k.scanLogs token Contract.sendPacket first last
  let packets ← lift (k.sentPackets logs)
  k.keepCommitted token last packets

/-! ## Received packets -/

/-- The packets received on the channel among the logs. -/
def receivedPackets (k : Scanner) (logs : List Log) : Except DiscoveryError (List Packet) := do
  let packets ← logs.mapM Contract.receivedPacket
  pure (packets.filter fun p =>
    p.destinationPort == k.path.own.port && p.destinationChannel == k.path.own.channel)

/-- The acknowledgements written on the channel among the logs. -/
def acknowledgements (k : Scanner) (logs : List Log) :
    Except DiscoveryError (List Contract.Acknowledgement) := do
  let written ← logs.mapM Contract.writtenAcknowledgement
  pure (written.filter fun a => a.port == k.path.own.port && a.channel == k.path.own.channel)

/-- The packet with the last of the acknowledgements written for it, if there is one. -/
def acknowledged? (written : List Contract.Acknowledgement) (p : Packet) : Option Packet :=
  (written.reverse.find? fun a => a.sequence == p.sequence).map fun a =>
    { p with acknowledgement := some a.bytes }

/-- The packets received on the channel in a range of blocks that have been acknowledged by its
    end.  Acknowledgements are searched from the first receipt on. -/
def acknowledgedPackets [Node σ] (k : Scanner) (token : CancelToken) (first last : Nat) :
    Run σ DiscoveryError (List Packet) := do
  let logs ← k.scanLogs token Contract.recvPacket first last
  let received ← lift (k.receivedPackets logs)
  match Packet.earliestHeight? received with
  | none => pure []
  | some earliest => do
    let logs ← k.scanLogs token Contract.writeAcknowledgement earliest last
    let written ← lift (k.acknowledgements logs)
    pure (received.filterMap (acknowledged? written))

/-! ## Packets to relay -/

/-- The checkpoint of a direction. -/
def loadCheckpoint (d : Direction) : Run σ DiscoveryError Nat :=
  Session.step fun s => ((s.checkpoints.load d).mapError .storage, s)

/-- Moves the checkpoint of a direction forward. -/
def advanceCheckpoint (d : Direction) (height : Nat) : Run σ DiscoveryError Nat :=
  Session.step fun s =>
    let (outcome, checkpoints) := s.checkpoints.advance d height
    (outcome.mapError .storage, { s with checkpoints })

/-- The block at which the next scan starts when some packets are still to be relayed. -/
def nextCheckpoint (target : Nat) (remaining : List Packet) : Nat :=
  (Packet.earliestHeight? remaining).getD (min (target + 1) countMax)

/-- The sequences the counterparty lists as not received. -/
def unreceived [Counterparty σ] (token : CancelToken) (d : Direction) (height : Nat)
    (sequences : List Nat) : Run σ DiscoveryError (List Nat) :=
  match d with
  | .sent => Session.askCounterparty token (.unreceivedPackets height sequences)
  | .received => Session.askCounterparty token (.unreceivedAcknowledgements height sequences)

/-- Keeps the packets the counterparty has not received at its latest final height. -/
def keepUnreceived [Counterparty σ] (token : CancelToken) (d : Direction) (found : List Packet) :
    Run σ DiscoveryError (List Packet) :=
  match found with
  | [] => pure []
  | _ :: _ => do
    let height : Nat ← Session.askCounterparty token .latestFinalizedHeight
    let listed ← unreceived token d height (found.map (·.sequence))
    pure (found.filter fun p => listed.contains p.sequence)

/-- The packets of a direction found in a range of blocks. -/
def candidates [Node σ] (k : Scanner) (token : CancelToken) (d : Direction) (first last : Nat) :
    Run σ DiscoveryError (List Packet) :=
  match d with
  | .sent => k.committedPackets token first last
  | .received => k.acknowledgedPackets token first last

/-- The packets of a direction that still have to be relayed, up to a target. -/
def unrelayed [Node σ] [Counterparty σ] (k : Scanner) (token : CancelToken) (d : Direction)
    (target : Nat) : Run σ DiscoveryError (List Packet) := do
  let checkpoint ← loadCheckpoint d
  if target < checkpoint then pure []
  else
    let found ← k.candidates token d checkpoint target
    let packets ← keepUnreceived token d found
    let _ ← advanceCheckpoint d (nextCheckpoint target packets)
    pure packets

/-- The sent packets the counterparty has not received. -/
def unrelayedPackets [Node σ] [Counterparty σ] (k : Scanner) (token : CancelToken) (target : Nat) :
    Run σ DiscoveryError (List Packet) := k.unrelayed token .sent target

/-- The received packets whose acknowledgement the counterparty has not received. -/
def unrelayedAcknowledgements [Node σ] [Counterparty σ] (k : Scanner) (token : CancelToken)
    (target : Nat) : Run σ DiscoveryError (List Packet) := k.unrelayed token .received target

/-! ## The channel -/

/-- Whether the channel is open at a block, or at the latest one.  An open channel is remembered. -/
def isChannelOpen [Node σ] (k : Scanner) (token : CancelToken) (height : Option Nat) :
    Run σ DiscoveryError Bool := do
  let s ← get
  if s.channelOpen then pure true
  else
    let answer ← query token (.call k.contract (Contract.channelInput k.path.own) height)
    match ← lift (Contract.channelStateOf answer) with
    | none =>
      throw (.notFound ("channel " ++ k.path.own.port ++ "/" ++ k.path.own.channel))
    | some state => do
      let isOpen := state == Contract.openState
      if isOpen then modify fun s => { s with channelOpen := true }
      pure isOpen

/-- Forgets that the channel has been seen open. -/
def forgetChannel {ε : Type} : Run σ ε Unit := modify fun s => { s with channelOpen := false }

end Scanner

end PacketRelay
