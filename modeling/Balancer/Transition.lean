import Balancer.Pool.Interface
import Balancer.Service

/-!
# Transitions of a port binding

The bound port and the published status of a service are written in separate updates. A change
of the port is recorded only while no status is published, so that the status never points at a
port that the service is not bound to.
-/

namespace Balancer

/-- What to do once the port of a managed service is known. -/
inductive Transition where
  /-- The port is the bound one. -/
  | unchanged
  /-- Record the port; `previous` is the port bound before, if any. -/
  | commit (previous : Option String)
  /-- Withdraw the published status first. -/
  | clearStatusFirst
  deriving DecidableEq

/-- The transition toward a port. -/
def Transition.toward (bound : Option String) (hasStatus : Bool) (portId : String) : Transition :=
  if bound = some portId then .unchanged
  else if hasStatus then .clearStatusFirst
  else .commit bound

/-- Whether a status is published without a bound port. -/
def hasStaleStatus (bound : Option String) (hasStatus : Bool) : Bool :=
  bound.isNone && hasStatus

/-- The status that publishes an address. -/
def statusFor (address : ExternalAddress) : List IngressEntry :=
  [{ ip := address.ip, hostname := address.hostname }]

/-- Whether a status is exactly the one entry for an address. -/
def statusMatches (ingress : List IngressEntry) (address : ExternalAddress) : Bool :=
  decide (ingress = statusFor address)

end Balancer
