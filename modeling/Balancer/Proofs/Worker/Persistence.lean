import Mathlib
import Balancer.Worker.Sync

/-!
# Persisting objects

A worker persists an object that it has read and changed. The write is refused and changes
nothing, or it stores the changed object in its next version and leaves every other object alone.
-/

namespace Balancer

namespace Store

/-- Every object is stored under its own identifier. -/
def Keyed (store : Store) : Prop :=
  ∀ id object, store.get? id = some object → object.id = id

/-- Putting an object stores it under its identifier. -/
theorem Keyed.put {store : Store} (hstore : store.Keyed) (service : Service) :
    (store.put service).2.Keyed := by
  intro id object hobject
  rw [get?_put] at hobject
  split at hobject
  · next hid =>
    cases hobject
    exact hid.symm
  · exact hstore id object hobject

/-- Deleting an object leaves the others where they are. -/
theorem Keyed.delete {store : Store} (hstore : store.Keyed) (deleted : ServiceId) :
    (store.delete deleted).2.Keyed := by
  intro id object hobject
  rw [get?_delete] at hobject
  split at hobject
  · cases hobject
  · exact hstore id object hobject

end Store

/-- The object in its next version. -/
def Service.renewed (service : Service) : Service :=
  { service with version := service.version + 1 }

namespace Cluster

/-- The cache follows the store, and every object is stored under its own identifier. -/
structure Direct (cluster : Cluster) : Prop where
  thawed : cluster.frozen = ∅
  keyed : cluster.store.Keyed

/-- The cluster with an object in the store. -/
def storing (cluster : Cluster) (object : Service) : Cluster :=
  { cluster with store :=
    { cluster.store with services := cluster.store.services.insert object.id object } }

/-- A read of a cache that follows the store answers the stored object unless it fails. -/
theorem Direct.service_eq {cluster : Cluster} (h : cluster.Direct) (id : ServiceId) :
    cluster.service id =
      if cluster.readsFailing then .error .readsFailing else .ok (cluster.store.get? id) := by
  unfold service
  rw [h.thawed]
  simp

/-- The stored objects once an object is in the store. -/
theorem get?_storing (cluster : Cluster) (object : Service) (id : ServiceId) :
    (cluster.storing object).store.get? id =
      if id = object.id then some object else cluster.store.get? id := by
  simp only [storing, Store.get?, Std.ExtTreeMap.getElem?_insert,
    Std.LawfulEqOrd.compare_eq_iff_eq]
  simp [eq_comm]

/-- An object in the store keeps every object under its own identifier. -/
theorem Direct.storing {cluster : Cluster} (h : cluster.Direct) (object : Service) :
    (cluster.storing object).Direct := by
  refine ⟨h.thawed, fun id stored hstored => ?_⟩
  rw [get?_storing] at hstored
  split at hstored
  · next hid =>
    cases hstored
    exact hid.symm
  · exact h.keyed id stored hstored

/-- A write that is based on the stored object is refused, or it stores the changed object in its
next version. -/
theorem write_cases {cluster : Cluster} {stored : Service} (basis : Service)
    (change : Service → Service)
    (hstored : cluster.store.get? basis.id = some stored)
    (hversion : stored.version = basis.version) (hid : (change stored).id = basis.id) :
    (∃ error, cluster.store.write basis change = .error error) ∨
      (cluster.store.write basis change).map (fun written => { cluster with store := written.2 }) =
        .ok (cluster.storing { change stored with version := stored.version + 1 }) := by
  unfold Store.write
  split
  · exact Or.inl ⟨_, rfl⟩
  · right
    simp only [hstored, if_pos hversion, Except.map, storing, hid]

/-- An update of the annotations of a stored object is refused or stores the object. -/
theorem update_cases {cluster : Cluster} {stored target : Service}
    (hstored : cluster.store.get? stored.id = some stored) (hid : target.id = stored.id)
    (hversion : target.version = stored.version) (hingress : target.ingress = stored.ingress) :
    (∃ error, cluster.update target = .error error) ∨
      cluster.update target = .ok (cluster.storing target.renewed) := by
  rcases write_cases target
    (fun stored => { stored with
      kind := target.kind, annotations := target.annotations, ports := target.ports })
    (hid ▸ hstored) hversion.symm hid.symm with ⟨error, herror⟩ | heq
  · refine Or.inl ⟨error, ?_⟩
    simp only [update, Store.update, herror]
    rfl
  · refine Or.inr (heq.trans ?_)
    rw [Service.renewed, hversion]
    obtain ⟨_, _, _, _, _, _⟩ := target
    cases hid
    cases hingress
    rfl

/-- An update of the status of a stored object is refused or stores the object. -/
theorem updateStatus_cases {cluster : Cluster} {stored : Service} (ingress : List IngressEntry)
    (hstored : cluster.store.get? stored.id = some stored) :
    (∃ error, cluster.updateStatus { stored with ingress } = .error error) ∨
      cluster.updateStatus { stored with ingress } =
        .ok (cluster.storing { stored with ingress }.renewed) := by
  rcases write_cases { stored with ingress } (fun stored => { stored with ingress })
    hstored rfl rfl with ⟨error, herror⟩ | heq
  · refine Or.inl ⟨error, ?_⟩
    simp only [updateStatus, Store.updateStatus, herror]
    rfl
  · exact Or.inr heq

end Cluster

namespace Worker

/-- The worker with an object in the store and with another log of events. -/
def storing (worker : Worker) (object : Service) (events : List (ServiceId × ServiceEvent)) :
    Worker :=
  let cluster := worker.cluster.storing object
  { worker with cluster := { cluster with store := { cluster.store with events } } }

/-- The worker with another log of events. -/
def logging (worker : Worker) (events : List (ServiceId × ServiceEvent)) : Worker :=
  { worker with cluster :=
    { worker.cluster with store := { worker.cluster.store with events } } }

/-- The stored objects do not depend on the log of events. -/
theorem get?_storing (worker : Worker) (object : Service)
    (events : List (ServiceId × ServiceEvent)) (id : ServiceId) :
    (worker.storing object events).cluster.store.get? id =
      if id = object.id then some object else worker.cluster.store.get? id :=
  worker.cluster.get?_storing object id

end Worker

end Balancer
