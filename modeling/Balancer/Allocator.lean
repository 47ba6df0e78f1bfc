import Balancer.Occupancy
import Balancer.Pool.Interface

/-!
# The port allocator

Which service is bound to which L3 port, and which port numbers it occupies there. A service
keeps its port as long as the port exists and no other service holds a number it asks for.
Otherwise it moves to the least tracked port with room for it, and only when there is none a new
port is made. A request that fails leaves the bookkeeping as it was.
-/

namespace Balancer

/-- Which L3 port each service is bound to. -/
abbrev Assignment := Std.ExtTreeMap ServiceId String

/-- The record of a mapped service: its L3 port and what it occupies there. -/
structure Mapping where
  portId : String
  ports : List TransportPort
  deriving DecidableEq

/-- Why the allocator refuses a request. -/
inductive AllocatorError where
  | notMapped (id : ServiceId)
  | noSuitablePort
  | pool (cause : PoolError)
  deriving DecidableEq

/-- The text of an allocator error. -/
def AllocatorError.message : AllocatorError → String
  | .notMapped id => "service " ++ id.key ++ " is not mapped"
  | .noSuitablePort => "no suitable L3 port available"
  | .pool cause => "L3 port backend error: " ++ cause.message

/-- The bookkeeping of the allocator: the record of every mapped service and the occupancy of
every tracked port. -/
structure Allocator where
  records : Std.ExtTreeMap ServiceId Mapping := ∅
  tracked : Std.ExtTreeMap String Occupancy := ∅
  deriving DecidableEq

/-- The port found for a service, and whether it was made for it. -/
inductive Placement where
  | present (portId : String)
  | made (portId : String)
  deriving DecidableEq

/-- The port of a placement. -/
def Placement.portId : Placement → String
  | .present portId => portId
  | .made portId => portId

namespace Allocator

/-- The occupancy of a port; an untracked port is unoccupied. -/
def occupancy (allocator : Allocator) (portId : String) : Occupancy :=
  (allocator.tracked[portId]?).getD {}

/-- Track a port; a tracked port stays as it is. -/
def trackOne (allocator : Allocator) (portId : String) : Allocator :=
  { allocator with tracked := allocator.tracked.insertIfNew portId {} }

/-- Track several ports. -/
def track (allocator : Allocator) (portIds : List String) : Allocator :=
  portIds.foldl trackOne allocator

/-- Remove the record of a service and every allocation it holds. -/
def unmap (allocator : Allocator) (id : ServiceId) : Allocator :=
  { records := allocator.records.erase id
    tracked := allocator.tracked.map fun _ occupancy => occupancy.release id }

/-- The port tried first: the recorded one, or else the preferred one unless that is empty. -/
def candidate (allocator : Allocator) (id : ServiceId) (preferred : Option String) :
    Option String :=
  match allocator.records[id]? with
  | some record => some record.portId
  | none => preferred.filter (· ≠ "")

/-- Whether a service may be placed on the port tried first. -/
def accepts {π : Type} [PortPool π] (allocator : Allocator) (pool : π) (id : ServiceId)
    (ports : List TransportPort) (portId : String) : Except PoolError Bool :=
  (PortPool.hasPort pool portId).map fun present =>
    present && (allocator.occupancy portId).fits ports (some id)

/-- The least tracked port with room for the ports, other than the one to skip. The numbers that
the service itself holds count as taken. -/
def firstFit (allocator : Allocator) (ports : List TransportPort) (skip : Option String) :
    Option String :=
  (allocator.tracked.toList.find? fun entry =>
    decide (some entry.1 ≠ skip) && entry.2.fits ports none).map (·.1)

/-- Make a new port. -/
def provision {π : Type} [PortPool π] (pool : π) : Except AllocatorError Placement × π :=
  match PortPool.provision pool with
  | (.ok portId, pool) => (.ok (.made portId), pool)
  | (.error cause, pool) =>
    (.error (if cause.isExhausted then .noSuitablePort else .pool cause), pool)

/-- Find a tracked port with room for the ports, or make a new one. -/
def search {π : Type} [PortPool π] (allocator : Allocator) (pool : π)
    (ports : List TransportPort) (skip : Option String) : Except AllocatorError Placement × π :=
  match allocator.firstFit ports skip with
  | some portId => (.ok (.present portId), pool)
  | none => provision pool

/-- Find the port for a service. -/
def place {π : Type} [PortPool π] (allocator : Allocator) (pool : π) (id : ServiceId)
    (ports : List TransportPort) (preferred : Option String) :
    Except AllocatorError Placement × π :=
  match allocator.candidate id preferred with
  | none => allocator.search pool ports none
  | some portId =>
    match allocator.accepts pool id ports portId with
    | .error cause => (.error (.pool cause), pool)
    | .ok true => (.ok (.present portId), pool)
    | .ok false => allocator.search pool ports (some portId)

/-- Start a port that was made for a service with nothing on it. -/
def prepare (allocator : Allocator) : Placement → Allocator
  | .present _ => allocator
  | .made portId => { allocator with tracked := allocator.tracked.insert portId {} }

/-- Record a service on a port and occupy its numbers there, and nothing elsewhere. -/
def bind (allocator : Allocator) (id : ServiceId) (ports : List TransportPort) (portId : String) :
    Allocator :=
  let cleared := if id ∈ allocator.records then allocator.unmap id else allocator
  { records := cleared.records.insert id { portId, ports }
    tracked := cleared.tracked.insert portId ((cleared.occupancy portId).occupy id ports) }

/-- Bind a service to an L3 port that can hold all the given ports. -/
def map {π : Type} [PortPool π] (allocator : Allocator) (pool : π) (id : ServiceId)
    (ports : List TransportPort) (preferred : Option String) :
    Except AllocatorError (String × Allocator) × π :=
  match allocator.place pool id ports preferred with
  | (.error error, pool) => (.error error, pool)
  | (.ok placement, pool) =>
    (.ok (placement.portId, (allocator.prepare placement).bind id ports placement.portId), pool)

/-- The port a service is bound to. -/
def portOf (allocator : Allocator) (id : ServiceId) : Except AllocatorError String :=
  match allocator.records[id]? with
  | some record => .ok record.portId
  | none => .error (.notMapped id)

/-- The port of every mapped service. -/
def assignment (allocator : Allocator) : Assignment :=
  allocator.records.map fun _ record => record.portId

/-- The tracked ports with at least one allocation. -/
def usedPorts (allocator : Allocator) : List String :=
  (allocator.tracked.filter fun _ occupancy => !occupancy.isEmpty).keys

/-- Stop tracking the ports without allocations. -/
def prune (allocator : Allocator) : Allocator :=
  { allocator with tracked := allocator.tracked.filter fun _ occupancy => !occupancy.isEmpty }

/-- The services with an allocation on a tracked port outside the given list. -/
def strandedBy (allocator : Allocator) (portIds : List String) : List ServiceId :=
  (allocator.tracked.toList.filter fun entry => decide (entry.1 ∉ portIds)).flatMap
    fun entry => entry.2.owners.values

/-- Keep only the given ports, and evict the services with an allocation on another one. The
evicted services are answered in ascending order. -/
def setAvailable (allocator : Allocator) (portIds : List String) : List ServiceId × Allocator :=
  let stranded := allocator.strandedBy portIds
  (allocator.records.keys.filter fun id => decide (id ∈ stranded),
    { records := allocator.records.filter fun id _ => decide (id ∉ stranded)
      tracked := allocator.tracked.filter fun portId _ => decide (portId ∈ portIds) })

/-- The taken numbers on a tracked port, with their owners. -/
def allocations (allocator : Allocator) (portId : String) : Option (List (UInt16 × ServiceId)) :=
  (allocator.tracked[portId]?).map Occupancy.toList

end Allocator

end Balancer
