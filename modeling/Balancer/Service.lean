import Balancer.ServiceId
import Balancer.Transport

/-!
# Service objects

A service of the cluster as the controller sees it: what it exposes, the annotations on it and
the load-balancer status published for it. The version counts the persisted updates of the
object, and an update that names another version than the stored one is refused.
-/

namespace Balancer

/-- How a service is exposed; only load-balancer services can be managed. -/
inductive ServiceKind where
  | clusterIp
  | nodePort
  | loadBalancer
  deriving DecidableEq

/-- A port declared on a service, with the port opened for it on every node, if there is one. -/
structure ServicePort where
  protocol : Protocol
  port : UInt16
  nodePort : Option UInt16 := none
  deriving DecidableEq

/-- One entry of the published load-balancer status. -/
structure IngressEntry where
  ip : String := ""
  hostname : String := ""
  deriving DecidableEq

/-- Annotation values by annotation name. -/
abbrev Annotations := Std.ExtTreeMap String String

/-- A service object. Its version is a number without a bound; a counter of 64 bits differs from it
only after 2^64 persisted updates of one object. -/
structure Service where
  id : ServiceId
  kind : ServiceKind
  annotations : Annotations := ∅
  ports : List ServicePort := []
  ingress : List IngressEntry := []
  version : Nat := 0
  deriving DecidableEq

namespace ServiceKind

/-- The name of a service kind. -/
def name : ServiceKind → String
  | .clusterIp => "ClusterIP"
  | .nodePort => "NodePort"
  | .loadBalancer => "LoadBalancer"

/-- The service kind of a name. -/
def ofName? (name : String) : Option ServiceKind :=
  if name = "ClusterIP" then some .clusterIp
  else if name = "NodePort" then some .nodePort
  else if name = "LoadBalancer" then some .loadBalancer
  else none

/-- Exactly the names are read back. -/
theorem ofName?_eq_some_iff (name : String) (kind : ServiceKind) :
    ofName? name = some kind ↔ name = kind.name := by
  unfold ofName?
  split
  · cases kind <;> simp_all [ServiceKind.name]
  · split
    · cases kind <;> simp_all [ServiceKind.name]
    · split
      · cases kind <;> simp_all [ServiceKind.name]
      · cases kind <;> simp_all [ServiceKind.name]

end ServiceKind

namespace Service

/-- A load-balancer service without annotations or status. -/
def loadBalancer (id : ServiceId) (ports : List ServicePort) : Service :=
  { id, kind := .loadBalancer, ports }

/-- The value of an annotation. -/
def annotation (service : Service) (name : String) : Option String :=
  service.annotations[name]?

/-- The transport ports the service asks for. -/
def transportPorts (service : Service) : List TransportPort :=
  service.ports.map fun port => { protocol := port.protocol, number := port.port }

/-- Whether any load-balancer status is published. -/
def hasIngress (service : Service) : Bool :=
  !service.ingress.isEmpty

end Service

end Balancer
