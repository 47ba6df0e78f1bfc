import Balancer.Transport

/-!
# The forwarding model

What the edge agents apply: for every address of the load balancer the inbound ports on it,
each with the destinations its traffic goes to.
-/

namespace Balancer

/-- Forward one inbound port to a set of destinations. -/
structure PortForward where
  protocol : Protocol
  inboundPort : UInt16
  destinations : List String
  destinationPort : UInt16
  policy : String := ""
  deriving DecidableEq

/-- All forwards that end on one address. -/
structure IngressAddress where
  address : String
  forwards : List PortForward
  deriving DecidableEq

/-- The complete forwarding model. -/
structure ForwardingModel where
  ingress : List IngressAddress := []
  deriving DecidableEq

/-- The number of forwards over all addresses. -/
def ForwardingModel.forwardCount (model : ForwardingModel) : Nat :=
  model.ingress.foldl (fun count entry => count + entry.forwards.length) 0

end Balancer
