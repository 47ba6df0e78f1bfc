import Balancer.Store

/-!
# Access to the cluster

The store as the controller reaches it. Reads go through a cache: they may fail as a whole, and
the cache may hold on to an old state of a single service. Writes and events go to the store.
-/

namespace Balancer

/-- The store behind its read cache. `frozen` holds the services that the cache does not refresh,
each as it was then, or as absent. -/
structure Cluster where
  store : Store := {}
  readsFailing : Bool := false
  frozen : Std.ExtTreeMap ServiceId (Option Service) := ∅
  deriving DecidableEq

namespace Cluster

/-- Read a service. -/
def service (cluster : Cluster) (id : ServiceId) : Except StoreError (Option Service) :=
  if cluster.readsFailing then .error .readsFailing
  else .ok ((cluster.frozen[id]?).getD (cluster.store.get? id))

/-- Read the node addresses. -/
def nodes (cluster : Cluster) : Except StoreError (List String) :=
  if cluster.readsFailing then .error .readsFailing else .ok cluster.store.nodes

/-- Persist the kind, the annotations and the ports of a service. -/
def update (cluster : Cluster) (service : Service) : Except StoreError Cluster :=
  (cluster.store.update service).map fun written => { cluster with store := written.2 }

/-- Persist the status of a service. -/
def updateStatus (cluster : Cluster) (service : Service) : Except StoreError Cluster :=
  (cluster.store.updateStatus service).map fun written => { cluster with store := written.2 }

/-- Log an event. -/
def record (cluster : Cluster) (id : ServiceId) (event : ServiceEvent) : Cluster :=
  { cluster with store := cluster.store.record id event }

/-- Hold on to the present state of a service. -/
def freeze (cluster : Cluster) (id : ServiceId) : Cluster :=
  { cluster with frozen := cluster.frozen.insert id (cluster.store.get? id) }

/-- Refresh a service again. -/
def thaw (cluster : Cluster) (id : ServiceId) : Cluster :=
  { cluster with frozen := cluster.frozen.erase id }

end Cluster

end Balancer
