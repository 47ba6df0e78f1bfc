import Balancer.Text.Quoted

/-!
# Service events

The observable transitions of a managed service, each with a short reason for machines and a
text for people.
-/

namespace Balancer

/-- A transition of a managed service. -/
inductive ServiceEvent where
  | takenOver
  | released
  | mapped (portId : String)
  | remapped (before after : String)
  | assigned (ip : String)
  | unassignedForRemapping
  | unassignedStale
  | unassignedForRelease
  | unmapped
  deriving DecidableEq

namespace ServiceEvent

/-- The name of the kind of event. -/
def name : ServiceEvent → String
  | .takenOver => "TakenOver"
  | .released => "Released"
  | .mapped _ => "Mapped"
  | .remapped _ _ => "Remapped"
  | .assigned _ => "Assigned"
  | .unassignedForRemapping => "UnassignedForRemapping"
  | .unassignedStale => "UnassignedStale"
  | .unassignedForRelease => "UnassignedForRelease"
  | .unmapped => "Unmapped"

/-- The reason: the name, except that a release withdraws its status like a stale one. -/
def reason : ServiceEvent → String
  | .unassignedForRelease => "UnassignedStale"
  | event => event.name

/-- The text of an event. -/
def text : ServiceEvent → String
  | .takenOver => "service taken over by the load-balancer controller"
  | .released => "service released by the load-balancer controller"
  | .mapped portId => "service mapped to port " ++ Text.quoted portId
  | .remapped before after =>
    "service mapping changed from port " ++ Text.quoted before ++ " to " ++ Text.quoted after ++
      " (due to conflict)"
  | .assigned ip => "service was assigned to the external IP address " ++ Text.quoted ip
  | .unassignedForRemapping => "service was unassigned due to upcoming port remapping"
  | .unassignedStale => "cleared stale IP address information"
  | .unassignedForRelease =>
    "cleared IP address information because control over the service is released"
  | .unmapped => "service unmapped"

end ServiceEvent

end Balancer
