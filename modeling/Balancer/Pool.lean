import Balancer.Pool.Dynamic
import Balancer.Pool.Fixed

/-!
# Pools

The two kinds of pool behind one type.
-/

namespace Balancer

/-- A pool of L3 ports. -/
inductive Pool where
  | fixed (pool : FixedPool)
  | dynamic (pool : DynamicPool)
  deriving DecidableEq

namespace Pool

/-- The identifiers of the ports, whether or not the pool can be reached. -/
def ports : Pool → List String
  | .fixed pool => pool.ports
  | .dynamic pool => pool.ports.keys

/-- Make a new port. -/
def provision : Pool → Except PoolError String × Pool
  | .fixed pool => ((PortPool.provision pool).1, .fixed (PortPool.provision pool).2)
  | .dynamic pool => (pool.provision.1, .dynamic pool.provision.2)

instance : PortPool Pool where
  provision := provision
  hasPort
    | .fixed pool, id => PortPool.hasPort pool id
    | .dynamic pool, id => PortPool.hasPort pool id
  available
    | .fixed pool => PortPool.available pool
    | .dynamic pool => PortPool.available pool
  clean
    | .fixed pool, used => (PortPool.clean pool used).map .fixed
    | .dynamic pool, used => (PortPool.clean pool used).map .dynamic
  external
    | .fixed pool, id => PortPool.external pool id
    | .dynamic pool, id => PortPool.external pool id
  internal
    | .fixed pool, id => PortPool.internal pool id
    | .dynamic pool, id => PortPool.internal pool id

/-- Delete a port as an operator would; a fixed pool keeps its ports. -/
def remove (id : String) : Pool → Pool
  | .fixed pool => .fixed pool
  | .dynamic pool => .dynamic (pool.remove id)

/-- Put a dynamic pool out of reach, or back into it. -/
def setUnavailable (unavailable : Bool) : Pool → Pool
  | .fixed pool => .fixed pool
  | .dynamic pool => .dynamic { pool with unavailable }

/-- The ports deleted by cleaning, in the order of deletion. -/
def deleted : Pool → List String
  | .fixed _ => []
  | .dynamic pool => pool.deleted

end Pool

end Balancer
