import Balancer.Address.Block

/-!
# Errors of address pools

Why a pool of L3 ports refuses a call. Exhaustion is told apart from the other causes, since
only exhaustion means that no further port can be had.
-/

namespace Balancer

/-- Why a pool refuses a call. -/
inductive PoolError where
  /-- No port has this identifier. -/
  | unknownPort (id : String)
  /-- The identifier is no address of a fixed pool. -/
  | unlistedAddress (id : String)
  /-- A fixed pool makes no ports. -/
  | fixedSize
  /-- As many ports as allowed exist. -/
  | capacityReached (capacity : Nat)
  /-- Every address of the block was given out. -/
  | blockExhausted (block : Block)
  /-- The pool cannot be reached. -/
  | offline
  deriving DecidableEq

namespace PoolError

/-- The text of a pool error. -/
def message : PoolError → String
  | .unknownPort id => "port not found: " ++ id
  | .unlistedAddress id => "port not found: " ++ id ++ " is not a valid load-balancer address"
  | .fixedSize => "port pool exhausted: cannot provision new ports from a static address pool"
  | .capacityReached capacity =>
    "port pool exhausted: capacity of " ++ toString capacity ++ " ports reached"
  | .blockExhausted block => "port pool exhausted: " ++ block.text
  | .offline => "backend unavailable: in-memory port pool is offline"

/-- Whether the pool cannot hand out more ports. -/
def isExhausted : PoolError → Bool
  | .fixedSize | .capacityReached _ | .blockExhausted _ => true
  | .unknownPort _ | .unlistedAddress _ | .offline => false

end PoolError

end Balancer
