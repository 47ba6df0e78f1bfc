import Balancer.Ownership
import Balancer.Transition
import Balancer.Worker.State

/-!
# Bringing a service up to date

A service that may be managed is taken over, bound to a port and given the address of the port as
its status; one that may no longer be managed loses its status, its mapping and the annotations.
Each run makes at most one update of the store. The binding and the status are written by separate
updates, and the notification about an update brings the job back for the next step.
-/

namespace Balancer

namespace Worker

/-- Withdraw the published status of a service. -/
def clearStatus (worker : Worker) (service : Service) (event : ServiceEvent) : Outcome :=
  followedBy (worker.updateStatus { service with ingress := [] }) fun worker =>
    (worker.record service.id event, none)

/-- Mark a service as taken over. -/
def takeOver (worker : Worker) (service : Service) : Outcome :=
  followedBy (worker.updateService service.markManaged) fun worker =>
    (worker.record service.id .takenOver, none)

/-- Give up control over a service. A published status is withdrawn first, and the rest is left
to the next run. The end of the mapping is logged before the annotations are removed. -/
def release (worker : Worker) (service : Service) : Outcome :=
  if service.hasIngress then worker.clearStatus service .unassignedForRelease
  else
    let unmapped := { worker with allocator := worker.allocator.unmap service.id }
    let logged :=
      if service.boundPort.isSome then unmapped.record service.id .unmapped else unmapped
    followedBy (logged.updateService service.disown) fun worker =>
      ((worker.record service.id .released).enqueue .pushConfig, none)

/-- Record the port of a service. -/
def commitPort (worker : Worker) (service : Service) (previous : Option String)
    (portId : String) : Outcome :=
  followedBy (worker.updateService (service.setBoundPort portId)) fun worker =>
    let event : ServiceEvent :=
      match previous with
      | none => .mapped portId
      | some before => .remapped before portId
    (worker.record service.id event, none)

/-- Publish the external address of the service's port as its status, unless it is published
already. -/
def refreshStatus (worker : Worker) (service : Service) : Outcome :=
  match worker.allocator.portOf service.id with
  | .error cause => (worker, some (.allocator cause))
  | .ok portId =>
    match PortPool.external worker.pool portId with
    | .error cause => (worker, some (.pool cause))
    | .ok address =>
      if statusMatches service.ingress address then (worker, none)
      else
        followedBy (worker.updateStatus { service with ingress := statusFor address })
          fun worker => (worker.record service.id (.assigned address.ip), none)

/-- Bring a managed service up to date: withdraw a stale status, or find its port and take the
next step of the transition to it. -/
def syncManaged (worker : Worker) (service : Service) : Outcome :=
  let bound := service.boundPort
  if hasStaleStatus bound service.hasIngress then worker.clearStatus service .unassignedStale
  else
    match worker.allocator.map worker.pool service.id service.transportPorts bound with
    | (.error cause, pool) => ({ worker with pool }, some (.allocator cause))
    | (.ok (portId, allocator), pool) =>
      let mapped := { worker with pool, allocator }
      match Transition.toward bound service.hasIngress portId with
      | .unchanged =>
        followedBy (mapped.refreshStatus service) fun worker => (worker.enqueue .pushConfig, none)
      | .commit previous => mapped.commitPort service previous portId
      | .clearStatusFirst => mapped.clearStatus service .unassignedForRemapping

/-- Bring a service up to date. -/
def syncService (worker : Worker) (id : ServiceId) : Outcome :=
  match worker.cluster.service id with
  | .error cause => (worker, some (.store cause))
  | .ok none => (worker, none)
  | .ok (some service) =>
    match service.canManage, service.isManaged with
    | false, false => (worker, none)
    | false, true => worker.release service
    | true, false => worker.takeOver service
    | true, true => worker.syncManaged service

end Worker

end Balancer
