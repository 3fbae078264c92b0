/-
  Nodes by their addresses on the web.

  A relayer opens no connections of its own: an endpoint names a node, and every query to it fails
  because the node is out of reach.
-/
import PacketRelay.Delivery.Error
import PacketRelay.Url

namespace PacketRelay

/-- The address of a node. -/
structure Endpoint where
  url : String
  isAbsolute : Url.isAbsolute url = true

namespace Endpoint

/-- The endpoint with an address. -/
def ofUrl (url : String) : Except DeliveryError Endpoint :=
  if h : Url.isAbsolute url = true then .ok ⟨url, h⟩ else .error (.configuration .invalidUrl)

/-- Why a query fails. -/
def unreachable (e : Endpoint) : NodeError :=
  .transport ("error sending request for url (" ++ e.url ++ ")")

/-- The number of the chain that the node serves. -/
def chainId (e : Endpoint) : Except NodeError Nat := .error e.unreachable

end Endpoint

instance : Node Endpoint where
  delay _ _ := 0
  reply _ e := (.error e.unreachable, e)

end PacketRelay
