import Mathlib
import Balancer.Proofs.Forwarding.Footprint
import Balancer.Proofs.Worker.Execution

/-!
# The model that describes a worker

Whether or not reads succeed at the moment, at most one forwarding model describes the state of a
worker: the one with the stored nodes and services and with the addresses that the pool gave to the
assigned ports. A model that is generated is this one. It stays this one while the nodes, the
assignment and the declared ports of the mapped services stay the same.
-/

namespace Balancer

/-- The port of a mapped service is that of its record. -/
theorem Allocator.getElem?_assignment (allocator : Allocator) (id : ServiceId) :
    allocator.assignment[id]? = (allocator.records[id]?).map Mapping.portId := by
  rw [assignment, Std.ExtTreeMap.getElem?_map]

namespace Worker

/-- What the generator would read if every read succeeded and ports had the given addresses. -/
def idealSource (worker : Worker) (addresses : String → String) : ModelSource :=
  { nodes := .ok worker.cluster.store.nodes
    service := fun id => .ok (worker.cluster.store.get? id)
    address := fun portId => .ok (addresses portId) }

/-- A model describes a worker if it is generated from the stored nodes and services and from the
addresses that the pool gave to the assigned ports, which may be gone since. -/
def Describes (worker : Worker) (model : ForwardingModel) : Prop :=
  ∃ addresses : String → String,
    (∀ (id : ServiceId) (portId : String), worker.allocator.assignment[id]? = some portId →
      ∃ external, worker.pool.Assigns portId external (addresses portId)) ∧
    (worker.idealSource addresses).generate worker.allocator.assignment = .ok model

variable {worker other : Worker} {model : ForwardingModel}

/-- At most one model describes a worker. -/
theorem Describes.unique {another : ForwardingModel} (h : worker.Describes model)
    (h' : worker.Describes another) : model = another := by
  obtain ⟨addresses, hgiven, hmodel⟩ := h
  obtain ⟨addresses', hgiven', hmodel'⟩ := h'
  have hagree : ModelSource.Agree worker.allocator.assignment (worker.idealSource addresses)
      (worker.idealSource addresses') := by
    refine ⟨rfl, fun _ _ _ => rfl, fun id portId hid => ?_⟩
    obtain ⟨external, hassigns⟩ := hgiven id portId hid
    obtain ⟨external', hassigns'⟩ := hgiven' id portId hid
    simp only [idealSource, (hassigns.unique hassigns').2]
  rw [hagree.generate_eq, hmodel'] at hmodel
  exact (Except.ok.inj hmodel).symm

/-- A model goes on describing the worker while what it depends on stays the same. -/
theorem Describes.of_eq (h : worker.Describes model)
    (hnodes : other.cluster.store.nodes = worker.cluster.store.nodes)
    (hassignment : other.allocator.assignment = worker.allocator.assignment)
    (hports : ∀ id, id ∈ worker.allocator.records →
      (other.cluster.store.get? id).map Service.ports =
        (worker.cluster.store.get? id).map Service.ports)
    (hpool : worker.pool.KeepsAddresses other.pool) : other.Describes model := by
  obtain ⟨addresses, hgiven, hmodel⟩ := h
  refine ⟨addresses, fun id portId hid => ?_, ?_⟩
  · rw [hassignment] at hid
    obtain ⟨external, hexternal⟩ := hgiven id portId hid
    exact ⟨external, hpool _ _ _ hexternal⟩
  · have hagree : ModelSource.Agree worker.allocator.assignment (other.idealSource addresses)
        (worker.idealSource addresses) := by
      refine ⟨congrArg Except.ok hnodes, fun id portId hid => ?_, fun _ _ _ => rfl⟩
      rw [Allocator.getElem?_assignment] at hid
      obtain ⟨record, hrecord, -⟩ := Option.map_eq_some_iff.mp hid
      have hmapped : id ∈ worker.allocator.records := mem_of_getElem?_eq_some hrecord
      exact congrArg Except.ok (hports id hmapped)
    rw [hassignment, hagree.generate_eq, hmodel]

/-- A model that can be generated describes the worker. -/
theorem describes_of_generate (hworker : worker.Grounded)
    (h : worker.modelSource.generate worker.allocator.assignment = .ok model) :
    worker.Describes model := by
  have hreads : worker.cluster.readsFailing = false := by
    cases hreads : worker.cluster.readsFailing with
    | false => rfl
    | true => simp [ModelSource.generate, modelSource, Cluster.nodes, hreads] at h
  have haddress : ∀ portId ∈ Assignment.ports worker.allocator.assignment,
      ∃ address, PortPool.internal worker.pool portId = .ok address := by
    unfold ModelSource.generate at h
    split at h
    · cases h
    · obtain ⟨entries, hentries, -⟩ := map_eq_ok h
      exact ModelSource.address_of_entries_eq_ok hentries
  let addresses (portId : String) : String :=
    match PortPool.internal worker.pool portId with
    | .ok address => address
    | .error _ => ""
  have hinternal (id : ServiceId) (portId : String)
      (hid : worker.allocator.assignment[id]? = some portId) :
      PortPool.internal worker.pool portId = .ok (addresses portId) := by
    obtain ⟨address, heq⟩ := haddress portId ((Assignment.mem_ports_iff _ _).mpr ⟨id, hid⟩)
    simp only [addresses, heq]
  refine ⟨addresses, fun id portId hid => ?_, ?_⟩
  · exact Pool.assigns_of_internal hworker.pool (hinternal id portId hid)
  · have hagree : ModelSource.Agree worker.allocator.assignment (worker.idealSource addresses)
        worker.modelSource := by
      refine ⟨?_, fun id portId _ => ?_, fun id portId hid => (hinternal id portId hid).symm⟩
      · simp [idealSource, modelSource, Cluster.nodes, hreads]
      · simp [idealSource, modelSource, hworker.cluster.service_eq, hreads]
    rw [hagree.generate_eq, h]

/-- The empty model describes a worker without records. -/
theorem describes_of_records_eq_empty (h : worker.allocator.records = ∅) :
    worker.Describes {} := by
  have hnone (id : ServiceId) : worker.allocator.assignment[id]? = none := by
    rw [Allocator.getElem?_assignment, h, Std.ExtTreeMap.getElem?_empty, Option.map_none]
  have hports : Assignment.ports worker.allocator.assignment = [] := by
    refine List.eq_nil_iff_forall_not_mem.mpr fun portId hportId => ?_
    obtain ⟨id, hid⟩ := (Assignment.mem_ports_iff _ _).mp hportId
    rw [hnone id] at hid
    cases hid
  refine ⟨fun _ => "", fun id portId hid => ?_, ?_⟩
  · rw [hnone id] at hid
    cases hid
  · simp only [ModelSource.generate, idealSource, hports, ModelSource.entries]
    rfl

end Worker

end Balancer
