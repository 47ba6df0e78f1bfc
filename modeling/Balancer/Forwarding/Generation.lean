import Std.Data.ExtTreeSet
import Balancer.Allocator
import Balancer.Forwarding
import Balancer.Store

/-!
# Generation of the forwarding model

The model of an assignment has one entry for each assigned port, in ascending order, with the
internal address of the port. Its forwards send every declared port that has a node port to that
node port on every node, ordered by inbound port and protocol. A service that is missing from
the cluster is left out.
-/

namespace Balancer

/-- Why no model can be generated. -/
inductive GenerationError where
  | store (cause : StoreError)
  | pool (cause : PoolError)
  deriving DecidableEq

/-- The text of a generation error. -/
def GenerationError.message : GenerationError → String
  | .store cause => "cluster store error: " ++ cause.message
  | .pool cause => "L3 port backend error: " ++ cause.message

/-- What the generator reads: the nodes, the services and the internal addresses of ports. -/
structure ModelSource where
  nodes : Except StoreError (List String)
  service : ServiceId → Except StoreError (Option Service)
  address : String → Except PoolError String

/-- The forwards of one service to the given nodes, in the order of declaration. -/
def Service.forwards (service : Service) (nodes : List String) : List PortForward :=
  service.ports.filterMap fun port => port.nodePort.map fun nodePort =>
    { protocol := port.protocol
      inboundPort := port.port
      destinations := nodes
      destinationPort := nodePort }

/-- The order of forwards: by inbound port, then by protocol. -/
def PortForward.precedes (a b : PortForward) : Bool :=
  decide (a.inboundPort < b.inboundPort) ||
    decide (a.inboundPort = b.inboundPort) && decide (a.protocol.rank ≤ b.protocol.rank)

/-- The given texts in ascending order, each once. -/
def sortedDistinct (texts : List String) : List String :=
  (Std.ExtTreeSet.ofList texts compare).toList

namespace Assignment

/-- The assigned ports in ascending order, each once. -/
def ports (assignment : Assignment) : List String :=
  sortedDistinct assignment.values

/-- The services assigned to a port, in ascending order. -/
def servicesOn (assignment : Assignment) (portId : String) : List ServiceId :=
  (assignment.toList.filter fun entry => decide (entry.2 = portId)).map (·.1)

end Assignment

namespace ModelSource

/-- The forwards of several services, one after the other. -/
def forwards (source : ModelSource) (nodes : List String) :
    List ServiceId → Except GenerationError (List PortForward)
  | [] => .ok []
  | id :: rest =>
    match source.service id with
    | .error cause => .error (.store cause)
    | .ok found =>
      (source.forwards nodes rest).map fun others =>
        (found.map fun service => service.forwards nodes).getD [] ++ others

/-- The entry of one port. -/
def entry (source : ModelSource) (nodes : List String) (assignment : Assignment)
    (portId : String) : Except GenerationError IngressAddress :=
  match source.address portId with
  | .error cause => .error (.pool cause)
  | .ok address =>
    (source.forwards nodes (Assignment.servicesOn assignment portId)).map fun forwards =>
      { address, forwards := forwards.mergeSort PortForward.precedes }

/-- The entries of several ports. -/
def entries (source : ModelSource) (nodes : List String) (assignment : Assignment) :
    List String → Except GenerationError (List IngressAddress)
  | [] => .ok []
  | portId :: rest =>
    match source.entry nodes assignment portId with
    | .error error => .error error
    | .ok entry => (source.entries nodes assignment rest).map (entry :: ·)

/-- The forwarding model of an assignment. -/
def generate (source : ModelSource) (assignment : Assignment) :
    Except GenerationError ForwardingModel :=
  match source.nodes with
  | .error cause => .error (.store cause)
  | .ok nodes =>
    (source.entries (sortedDistinct nodes) assignment (Assignment.ports assignment)).map
      fun ingress => { ingress }

end ModelSource

end Balancer
