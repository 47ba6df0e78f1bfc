import Balancer.Ownership
import Balancer.Worker.State

/-!
# Maintenance jobs

Forgetting deleted services, deleting ports that are not in use, pushing the forwarding model, and
following the ports that the pool offers.
-/

namespace Balancer

namespace Worker

/-- Forget a deleted service that was managed. -/
def removeService (worker : Worker) (id : ServiceId) (annotations : Annotations) : Outcome :=
  if Annotations.isManaged annotations then
    let unmapped := { worker with allocator := worker.allocator.unmap id }
    ((unmapped.enqueue .cleanup).enqueue .pushConfig, none)
  else (worker, none)

/-- Delete the ports without allocations. Ports that the pool keeps stay tracked. -/
def cleanup (worker : Worker) : Outcome :=
  if worker.cleanupsAllowed then
    let pruned := { worker with allocator := worker.allocator.prune }
    match PortPool.clean pruned.pool worker.allocator.usedPorts with
    | .error cause => (pruned, some (.pool cause))
    | .ok pool =>
      let cleaned := { pruned with pool }
      match PortPool.available pool with
      | .error cause => (cleaned, some (.pool cause))
      | .ok portIds => ({ cleaned with allocator := cleaned.allocator.track portIds }, none)
  else (worker, some .barrierActive)

/-- What the generator reads in the worker's surroundings. -/
def modelSource (worker : Worker) : ModelSource :=
  { nodes := worker.cluster.nodes
    service := worker.cluster.service
    address := PortPool.internal worker.pool }

/-- Generate the forwarding model and push it. -/
def pushConfig (worker : Worker) : Outcome :=
  match worker.modelSource.generate worker.allocator.assignment with
  | .error cause => (worker, some (.generation cause))
  | .ok model =>
    match worker.pusher.push model with
    | .error cause => (worker, some (.push cause))
    | .ok pusher => ({ worker with pusher }, none)

/-- Drop the ports that vanished and track those on offer. The evicted services are brought up
to date afterwards. -/
def syncAvailablePorts (worker : Worker) : Outcome :=
  match PortPool.available worker.pool with
  | .error cause => (worker, some (.pool cause))
  | .ok portIds =>
    let (evicted, kept) := worker.allocator.setAvailable portIds
    let tracking := { worker with allocator := kept.track portIds }
    let followUps := if evicted = [] then [] else evicted.map Job.syncService ++ [.pushConfig]
    ({ tracking with jobs := tracking.jobs.addAll followUps }, none)

end Worker

end Balancer
