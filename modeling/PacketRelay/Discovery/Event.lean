/-
  What the messaging contract writes and answers.

  * `sentPacket`, `receivedPacket` and `writtenAcknowledgement` read the three events of a packet's
    life from logs, which must hold nothing but their canonical encoding;
  * `commitmentPath` names the place where the contract keeps a packet's commitment, and
    `commitmentInput`, `channelInput` are the calls that read it and the channel.
-/
import PacketRelay.Abi.Signature
import PacketRelay.Discovery.Error
import PacketRelay.Packet

namespace PacketRelay.Contract

/-- A text that has been checked to be one. -/
def textOf (b : Bytes) : String := Utf8.decodeLossy b

/-! ## Events -/

/-- An event: its name and the types of its arguments. -/
structure Event where
  name : String
  types : List AbiType

/-- The first topic of an event. -/
def Event.topic (e : Event) : Hash :=
  Abi.signatureHash (Abi.signatureText e.name (AbiType.texts e.types))

/-- The arguments an event has been written with. -/
def Event.arguments (e : Event) (log : Log) : Except DiscoveryError (AbiType.Values e.types) :=
  if log.topics.head? = some e.topic then
    match AbiType.decodeCanonical e.types log.data with
    | some values => .ok values
    | none => .error (.malformed (e.name ++ ": not the encoding of its arguments"))
  else .error (.malformed (e.name ++ ": another first topic"))

/-- The type of a height. -/
abbrev heightType : AbiType := .tuple ["revision_number", "revision_height"] [.uint 64, .uint 64]

/-- A packet has been sent. -/
abbrev sendPacket : Event :=
  ⟨"SendPacket", [.uint 64, .string, .string, heightType, .uint 64, .bytes]⟩

/-- A packet has been received. -/
abbrev recvPacket : Event :=
  ⟨"RecvPacket", [.tuple
    ["sequence", "source_port", "source_channel", "destination_port", "destination_channel", "data",
      "timeout_height", "timeout_timestamp"]
    [.uint 64, .string, .string, .string, .string, .bytes, heightType, .uint 64]]⟩

/-- A received packet has been acknowledged. -/
abbrev writeAcknowledgement : Event :=
  ⟨"WriteAcknowledgement", [.string, .string, .uint 64, .bytes]⟩

/-- The block of a log. -/
def heightOf (log : Log) : Except DiscoveryError Nat :=
  match log.block with
  | some height => .ok height
  | none => .error (.malformed "log without block number")

/-- Reads the sending of a packet; where it goes is told by the path. -/
def sentPacket (path : ChannelPath) (log : Log) : Except DiscoveryError Packet := do
  let (sequence, port, channel, (revision, height, _), timestamp, data, _) ←
    sendPacket.arguments log
  let eventHeight ← heightOf log
  pure {
    sequence
    sourcePort := textOf port
    sourceChannel := textOf channel
    destinationPort := path.counterparty.port
    destinationChannel := path.counterparty.channel
    data
    timeoutHeight := ⟨revision, height⟩
    timeoutTimestamp := timestamp
    acknowledgement := none
    eventHeight }

/-- Reads the receipt of a packet. -/
def receivedPacket (log : Log) : Except DiscoveryError Packet := do
  let ((sequence, sourcePort, sourceChannel, destinationPort, destinationChannel, data,
    (revision, height, _), timestamp, _), _) ← recvPacket.arguments log
  let eventHeight ← heightOf log
  pure {
    sequence
    sourcePort := textOf sourcePort
    sourceChannel := textOf sourceChannel
    destinationPort := textOf destinationPort
    destinationChannel := textOf destinationChannel
    data
    timeoutHeight := ⟨revision, height⟩
    timeoutTimestamp := timestamp
    acknowledgement := none
    eventHeight }

/-- An acknowledgement written for a received packet. -/
structure Acknowledgement where
  port : String
  channel : String
  sequence : Nat
  bytes : Bytes
deriving Repr, DecidableEq

/-- Reads the writing of an acknowledgement. -/
def writtenAcknowledgement (log : Log) : Except DiscoveryError Acknowledgement := do
  let (port, channel, sequence, bytes, _) ← writeAcknowledgement.arguments log
  pure ⟨textOf port, textOf channel, sequence, bytes⟩

/-! ## Commitments -/

/-- The place of a packet's commitment. -/
def commitmentPath (port channel : String) (sequence : Nat) : String :=
  "commitments/ports/" ++ port ++ "/channels/" ++ channel ++ "/sequences/" ++
    Decimal.text sequence

/-- The key under which the commitment is stored. -/
def commitmentKey (port channel : String) (sequence : Nat) : Hash :=
  keccak256 (utf8 (commitmentPath port channel sequence))

/-- The call that reads a commitment. -/
def commitmentInput (key : Hash) : Bytes :=
  Abi.callInput "getCommitment" [.fixedBytes 32] (key, ())

/-- The commitment in the answer to `commitmentInput`; it is zero when there is none. -/
def commitmentOf (answer : Bytes) : Except DiscoveryError Hash :=
  match AbiType.decodeCanonical [.fixedBytes 32] answer with
  | some (commitment, _) => .ok commitment
  | none => .error (.malformed "getCommitment: not the encoding of its result")

/-! ## Channels -/

/-- The call that reads a channel. -/
def channelInput (end_ : PathEnd) : Bytes :=
  Abi.callInput "getChannel" [.string, .string] (utf8 end_.port, utf8 end_.channel, ())

/-- The types of the answer to `channelInput`: the channel and a byte that is not zero if there is
    one. -/
abbrev channelTypes : List AbiType :=
  [.tuple ["state", "ordering", "counterparty", "connection_hops", "version", "upgrade_sequence"]
    [.uint 8, .uint 8, .tuple ["port_id", "channel_id"] [.string, .string], .array .string, .string,
      .uint 64],
   .uint 8]

/-- The state of a channel that is open. -/
def openState : Nat := 3

/-- The state of the channel in the answer to `channelInput`, if there is one. -/
def channelStateOf (answer : Bytes) : Except DiscoveryError (Option Nat) :=
  match AbiType.decodeCanonical channelTypes answer with
  | some ((state, _), found, _) =>
    let state : Nat := state
    let found : Nat := found
    .ok (if found = 0 then none else some state)
  | none => .error (.malformed "getChannel: not the encoding of its result")

end PacketRelay.Contract
