import Balancer.Pool.Interface

/-!
# Fixed pools

A configured list of addresses. Each address is one port, its identifier is the written address,
and both its external and its internal address are the address itself. No port is made or
deleted.
-/

namespace Balancer

/-- A pool over a fixed list of addresses. -/
structure FixedPool where
  addresses : List Ipv4
  deriving DecidableEq

namespace FixedPool

/-- The identifiers of all ports, in the configured order. -/
def ports (pool : FixedPool) : List String :=
  pool.addresses.map Ipv4.text

/-- The address with the given identifier. -/
def find? (pool : FixedPool) (id : String) : Option Ipv4 :=
  (Ipv4.ofText? id).filter fun address => decide (address ∈ pool.addresses)

/-- The address with the given identifier, or the error that there is none. -/
def address (pool : FixedPool) (id : String) : Except PoolError Ipv4 :=
  match pool.find? id with
  | some address => .ok address
  | none => .error (.unlistedAddress id)

instance : PortPool FixedPool where
  provision pool := (.error .fixedSize, pool)
  hasPort pool id := .ok (pool.find? id).isSome
  available pool := .ok pool.ports
  clean pool _ := .ok pool
  external pool id := (pool.address id).map fun address => { ip := address.text }
  internal pool id := (pool.address id).map Ipv4.text

end FixedPool

end Balancer
