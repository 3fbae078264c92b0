/-
  Why discovery fails.
-/
import PacketRelay.Node
import PacketRelay.Storage.Error

namespace PacketRelay

/-- Why a search for packets or a look at the channel has failed. -/
inductive DiscoveryError where
  | transport (text : String)
  | notFound (what : String)
  /-- A log or an answer that is not what the contract writes. -/
  | malformed (what : String)
  | counterparty (text : String)
  | storage (e : StorageError)
  | cancelled (reason : CancelReason)
deriving Repr, DecidableEq

namespace DiscoveryError

/-- The wording of an error. -/
def message : DiscoveryError → String
  | transport text => "Transport error: " ++ text
  | notFound what => "Not found: " ++ what
  | malformed what => "Decode error: " ++ what
  | counterparty text => "Counterparty error: " ++ text
  | storage e => "Checkpoint storage error: " ++ e.message
  | cancelled reason => reason.message

/-- The failure of a query. -/
def ofNode : NodeError → DiscoveryError
  | .transport text => .transport text
  | .invalidResponse text => .malformed text
  | .cancelled reason => .cancelled reason

end DiscoveryError

end PacketRelay
