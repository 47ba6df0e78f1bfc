import Balancer.Pool.Error

/-!
# The interface of address pools

A pool offers L3 ports: network resources with an external and an internal address, each known
by an identifier. A call that fails leaves the pool as it is, provisioning excepted, which may
use up addresses before it fails.
-/

namespace Balancer

/-- The address under which a port is reached from outside. -/
structure ExternalAddress where
  ip : String
  hostname : String := ""
  deriving DecidableEq

/-- The calls that every pool of L3 ports answers. -/
class PortPool (π : Type) where
  /-- Make a new port. -/
  provision : π → Except PoolError String × π
  /-- Whether a port exists. -/
  hasPort : π → String → Except PoolError Bool
  /-- The ports on offer. -/
  available : π → Except PoolError (List String)
  /-- Delete the ports that are not in use, as far as the pool deletes ports. -/
  clean : π → List String → Except PoolError π
  /-- The external address of a port. -/
  external : π → String → Except PoolError ExternalAddress
  /-- The internal address of a port. -/
  internal : π → String → Except PoolError String

end Balancer
