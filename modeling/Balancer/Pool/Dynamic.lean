import Std.Data.ExtTreeMap
import Balancer.Address.Sequence
import Balancer.Pool.Interface

/-!
# Dynamic pools

Ports are made on demand. The identifiers count up from `port-1`, and each port gets the next
address of an external and of an internal block; neither identifiers nor addresses are used
again. A pool may be limited in the number of ports that exist at the same time, and it may be
out of reach, when every call fails.
-/

namespace Balancer

/-- The two addresses of a port. -/
structure PortAddresses where
  external : Ipv4
  internal : Ipv4
  deriving DecidableEq

/-- A pool that makes ports on demand. `deleted` lists the ports deleted by cleaning, in the
order of deletion. -/
structure DynamicPool where
  capacity : Option Nat := none
  ports : Std.ExtTreeMap String PortAddresses := ∅
  externals : AddressSequence
  internals : AddressSequence
  nextId : Nat := 1
  deleted : List String := []
  unavailable : Bool := false
  deriving DecidableEq

namespace DynamicPool

/-- An empty pool over an external and an internal block. -/
def empty (external internal : Block) (capacity : Option Nat) : DynamicPool :=
  { capacity, externals := { block := external }, internals := { block := internal } }

/-- The identifier of the port with the given number. -/
def portId (number : Nat) : String :=
  "port-" ++ toString number

/-- Refuse the call while the pool is out of reach. -/
def whenReachable {α : Type} (pool : DynamicPool) (answer : Except PoolError α) :
    Except PoolError α :=
  if pool.unavailable then .error .offline else answer

/-- Why no further port may exist now, if so. -/
def limitReached (pool : DynamicPool) : Option PoolError :=
  match pool.capacity with
  | none => none
  | some capacity => if capacity ≤ pool.ports.size then some (.capacityReached capacity) else none

/-- Make a port: draw an external address, then an internal one. Where the second draw fails the
first has used up its address. -/
def provision (pool : DynamicPool) : Except PoolError String × DynamicPool :=
  if pool.unavailable then (.error .offline, pool)
  else
    match pool.limitReached with
    | some error => (.error error, pool)
    | none =>
      match pool.externals.take with
      | .error error => (.error error, pool)
      | .ok (external, externals) =>
        match pool.internals.take with
        | .error error => (.error error, { pool with externals })
        | .ok (internal, internals) =>
          let id := portId pool.nextId
          (.ok id,
            { pool with
              ports := pool.ports.insert id { external, internal }
              externals
              internals
              nextId := pool.nextId + 1 })

/-- The addresses of a port. -/
def addresses (pool : DynamicPool) (id : String) : Except PoolError PortAddresses :=
  pool.whenReachable <|
    match pool.ports[id]? with
    | some addresses => .ok addresses
    | none => .error (.unknownPort id)

/-- Delete every port that is not in use, and log the deletions in ascending order. -/
def clean (pool : DynamicPool) (used : List String) : Except PoolError DynamicPool :=
  pool.whenReachable <| .ok
    { pool with
      ports := pool.ports.filter fun id _ => decide (id ∈ used)
      deleted := pool.deleted ++ pool.ports.keys.filter fun id => decide (id ∉ used) }

/-- Delete a port without logging it, as an operator would. -/
def remove (pool : DynamicPool) (id : String) : DynamicPool :=
  { pool with ports := pool.ports.erase id }

instance : PortPool DynamicPool where
  provision := provision
  hasPort pool id := pool.whenReachable (.ok (decide (id ∈ pool.ports)))
  available pool := pool.whenReachable (.ok pool.ports.keys)
  clean := clean
  external pool id := (pool.addresses id).map fun addresses => { ip := addresses.external.text }
  internal pool id := (pool.addresses id).map fun addresses => addresses.internal.text

end DynamicPool

end Balancer
