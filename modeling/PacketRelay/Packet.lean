/-
  Packets and the two directions in which they travel.

  * `Direction` names the two checkpoints: packets this chain has sent and packets it has
    received;
  * `Packet` is what one event says about a packet;
  * `ChannelPath` names the channel on this chain and its other end.
-/
import PacketRelay.Bytes
import PacketRelay.Decimal

namespace PacketRelay

/-! ## Directions -/

/-- The direction of a packet, seen from this chain. -/
inductive Direction where
  | sent
  | received
deriving Repr, DecidableEq

namespace Direction

/-- The key under which the checkpoint of a direction is stored. -/
def key : Direction → String
  | sent => "send"
  | received => "recv"

/-- The other direction. -/
def other : Direction → Direction
  | sent => received
  | received => sent

theorem key_injective {d e : Direction} (h : d.key = e.key) : d = e := by
  cases d <;> cases e <;> simp_all [key]

end Direction

/-! ## Packets -/

/-- A height of a chain that may restart its numbering. -/
structure Height where
  revisionNumber : Nat
  revisionHeight : Nat
deriving Repr, DecidableEq

namespace Height

/-- Whether no height is set. -/
def isZero (h : Height) : Bool := h.revisionNumber == 0 && h.revisionHeight == 0

/-- The revision number, a hyphen, the height. -/
def text (h : Height) : String :=
  Decimal.text h.revisionNumber ++ "-" ++ Decimal.text h.revisionHeight

end Height

/-- A packet as one event describes it. -/
structure Packet where
  sequence : Nat
  sourcePort : String
  sourceChannel : String
  destinationPort : String
  destinationChannel : String
  data : Bytes
  timeoutHeight : Height
  timeoutTimestamp : Nat
  acknowledgement : Option Bytes
  /-- The block of the event. -/
  eventHeight : Nat
deriving Repr, DecidableEq

namespace Packet

/-- The least event height of a list of packets. -/
def earliestHeight? : List Packet → Option Nat
  | [] => none
  | p :: rest => match earliestHeight? rest with
    | none => some p.eventHeight
    | some h => some (min p.eventHeight h)

end Packet

/-! ## Channels -/

/-- One end of a channel. -/
structure PathEnd where
  port : String
  channel : String
deriving Repr, DecidableEq

/-- The channel on this chain and its other end. -/
structure ChannelPath where
  own : PathEnd
  counterparty : PathEnd
deriving Repr, DecidableEq

end PacketRelay
