import Balancer.Service

/-!
# Ownership annotations

The two annotations that the controller keeps on a service: whether it has taken the service
over, and the L3 port the service is bound to. They are its only lasting state. A user opts a
service out by setting the first to `false`.
-/

namespace Balancer

/-- The annotation that marks a service as taken over. -/
def managedKey : String :=
  "load-balancer.lbaas.io/managed"

/-- The annotation that names the L3 port of a service. -/
def boundPortKey : String :=
  "load-balancer.lbaas.io/bound-port"

/-- Whether the annotations mark a service as taken over. -/
def Annotations.isManaged (annotations : Annotations) : Bool :=
  decide (annotations[managedKey]? = some "true")

namespace Service

/-- Whether a service is taken over. -/
def isManaged (service : Service) : Bool :=
  Annotations.isManaged service.annotations

/-- Whether a service may be managed. -/
def canManage (service : Service) : Bool :=
  decide (service.kind = .loadBalancer) &&
    decide (service.annotation managedKey ≠ some "false")

/-- The port that a service is bound to; an empty annotation names none. -/
def boundPort (service : Service) : Option String :=
  (service.annotation boundPortKey).filter (· ≠ "")

/-- Mark a service as taken over. -/
def markManaged (service : Service) : Service :=
  { service with annotations := service.annotations.insert managedKey "true" }

/-- Record the port of a service. -/
def setBoundPort (service : Service) (portId : String) : Service :=
  { service with annotations := service.annotations.insert boundPortKey portId }

/-- Remove both annotations. -/
def disown (service : Service) : Service :=
  { service with
    annotations := (service.annotations.erase managedKey).erase boundPortKey }

end Service

end Balancer
