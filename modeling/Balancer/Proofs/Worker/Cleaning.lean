import Mathlib
import Balancer.Proofs.Pool.Availability
import Balancer.Proofs.Worker.Bookkeeping
import Balancer.Proofs.Worker.Frame

/-!
# Which ports a cleanup deletes

A cleanup keeps the ports on which the allocator has a number taken, and deletes the others. Since
the occupancy is exact, a port is kept exactly when the record of some service on it lists a number.
So every service with numbers keeps its port. A service that asks for no number at all takes none,
and the port that it is bound to may be deleted under it.
-/

namespace Balancer

/-- The ports in use are those on which some service holds a number. -/
theorem Allocator.mem_usedPorts_iff (allocator : Allocator) (portId : String) :
    portId ∈ allocator.usedPorts ↔ ∃ number id, allocator.Holds portId number id := by
  rw [usedPorts, Std.ExtTreeMap.mem_keys, Std.ExtTreeMap.mem_iff_isSome_getElem?,
    Std.ExtTreeMap.getElem?_filter']
  simp only [Holds]
  cases allocator.tracked[portId]? with
  | none => simp
  | some occupancy =>
    simp only [Option.filter_some, Option.some.injEq, exists_eq_left']
    cases hempty : occupancy.isEmpty with
    | true =>
      have howners : occupancy.owners = ∅ := Std.ExtTreeMap.isEmpty_iff.mp hempty
      simp [howners]
    | false =>
      have howners : occupancy.owners ≠ ∅ := Std.ExtTreeMap.isEmpty_eq_false_iff.mp hempty
      rw [Ne, Std.ExtTreeMap.eq_empty_iff_forall_not_mem, not_forall_not] at howners
      obtain ⟨number, hnumber⟩ := howners
      have htaken := Std.ExtTreeMap.getElem?_eq_some_getElem hnumber
      exact iff_of_true rfl ⟨number, _, htaken⟩

/-- Pruning leaves the ports tracked on which some service holds a number. -/
theorem Allocator.mem_tracked_prune (allocator : Allocator) (portId : String) :
    portId ∈ allocator.prune.tracked ↔ ∃ number id, allocator.Holds portId number id :=
  Std.ExtTreeMap.mem_keys.symm.trans (allocator.mem_usedPorts_iff portId)

/-- A port is in use exactly when the record of some service on it lists a number. -/
theorem Allocator.Exact.mem_usedPorts_iff {allocator : Allocator} (hexact : allocator.Exact)
    (portId : String) :
    portId ∈ allocator.usedPorts ↔ ∃ (id : ServiceId) (record : Mapping),
      allocator.records[id]? = some record ∧ record.portId = portId ∧ record.ports ≠ [] := by
  rw [allocator.mem_usedPorts_iff]
  constructor
  · intro hused
    obtain ⟨number, id, hholds⟩ := hused
    obtain ⟨record, hrecord, hon, port, hport, -⟩ := (hexact portId number id).mp hholds
    exact ⟨id, record, hrecord, hon, List.ne_nil_of_mem hport⟩
  · intro hbound
    obtain ⟨id, record, hrecord, hon, hports⟩ := hbound
    obtain ⟨port, hport⟩ := List.exists_mem_of_ne_nil _ hports
    exact ⟨port.number, id, (hexact _ _ _).mpr ⟨record, hrecord, hon, port, hport, rfl⟩⟩

/-- Cleaning keeps the ports in use; a fixed pool keeps the others too. -/
theorem Pool.mem_ports_of_clean {pool cleaned : Pool} {used : List String} {portId : String}
    (hclean : PortPool.clean pool used = .ok cleaned) (hused : portId ∈ used)
    (hport : portId ∈ pool.ports) : portId ∈ cleaned.ports := by
  cases pool with
  | fixed pool =>
    cases hclean
    exact hport
  | dynamic pool =>
    obtain ⟨kept, hkept, rfl⟩ := map_eq_ok (x := pool.clean used) hclean
    unfold DynamicPool.clean DynamicPool.whenReachable at hkept
    split at hkept
    · cases hkept
    · cases hkept
      have hmem : portId ∈ pool.ports := Std.ExtTreeMap.mem_keys.mp hport
      exact Std.ExtTreeMap.mem_keys.mpr (Std.ExtTreeMap.mem_filter.mpr ⟨hmem, by simpa using hused⟩)

/-- Cleaning a dynamic pool deletes exactly the ports that are not in use. -/
theorem Pool.mem_ports_of_clean_dynamic {pool : DynamicPool} {cleaned : Pool} {used : List String}
    (hclean : PortPool.clean (Pool.dynamic pool) used = .ok cleaned) (portId : String) :
    portId ∈ cleaned.ports ↔ portId ∈ (Pool.dynamic pool).ports ∧ portId ∈ used := by
  obtain ⟨kept, hkept, rfl⟩ := map_eq_ok (x := pool.clean used) hclean
  unfold DynamicPool.clean DynamicPool.whenReachable at hkept
  split at hkept
  · cases hkept
  · cases hkept
    simp [Pool.ports, Std.ExtTreeMap.mem_keys, Std.ExtTreeMap.mem_filter]

namespace Worker

/-- A cleanup leaves the pool alone, or it cleans it of the ports that are not in use. -/
theorem pool_run_cleanup (worker : Worker) :
    (worker.run .cleanup).1.pool = worker.pool ∨
      PortPool.clean worker.pool worker.allocator.usedPorts =
        .ok (worker.run .cleanup).1.pool := by
  have hupkeep := worker.upkeep .cleanup trivial
  generalize worker.run .cleanup = outcome at hupkeep ⊢
  cases hupkeep with
  | barred => exact Or.inl rfl
  | refused => exact Or.inl rfl
  | cleaned _ hclean => exact Or.inr hclean

/-- A cleanup never deletes a port on which a service has numbers: whatever happened before, the
port of a record that lists any is still there after the job. -/
theorem mem_ports_run_cleanup {start : Worker} (hstart : start.Accounted)
    {history : List Happening} {id : ServiceId} {record : Mapping}
    (hrecord : (start.through history).allocator.records[id]? = some record)
    (hports : record.ports ≠ [])
    (hpresent : record.portId ∈ (start.through history).pool.ports) :
    record.portId ∈ ((start.through history).run .cleanup).1.pool.ports := by
  have hexact := (hstart.through history).allocation.sound.exact
  rcases (start.through history).pool_run_cleanup with hsame | hclean
  · rwa [hsame]
  · have hused := (hexact.mem_usedPorts_iff record.portId).mpr ⟨id, record, hrecord, rfl, hports⟩
    exact Pool.mem_ports_of_clean hclean hused hpresent

/-- A service with the given ports is put and brought up to date, with the cleanups allowed, and
then another port is made. -/
def tidied (ports : List ServicePort) : List Happening :=
  [.changePool .provision, .turn, .turn, .turn, .turn, .turn,
    .put (.loadBalancer ⟨"ns", "web"⟩ ports), .turn, .request .removeCleanupBarrier]

/-- The port of the service stays, and the other one is deleted. -/
theorem mem_ports_run_cleanup_tidied :
    "port-1" ∈ ((sample.through (tidied [{ protocol := .tcp, port := 80 }])).run
        .cleanup).1.pool.ports ∧
      "port-2" ∉ ((sample.through (tidied [{ protocol := .tcp, port := 80 }])).run
        .cleanup).1.pool.ports := by
  have hrecord : (sample.through (tidied [{ protocol := .tcp, port := 80 }])).allocator.records[
      (⟨"ns", "web"⟩ : ServiceId)]? =
        some { portId := "port-1", ports := [{ protocol := .tcp, number := 80 }] } := by
    decide +kernel
  constructor
  · apply mem_ports_run_cleanup accounted_sample hrecord
    · exact List.cons_ne_nil _ _
    · decide +kernel
  · decide +kernel

/-- So not every port that a service is bound to survives a cleanup: a service without ports loses
its own. -/
theorem exists_deleted_bound_port :
    ¬∀ (start : Worker) (history : List Happening) (id : ServiceId) (portId : String),
      start.Accounted → (start.through history).allocator.assignment[id]? = some portId →
        portId ∈ (start.through history).pool.ports →
          portId ∈ ((start.through history).run .cleanup).1.pool.ports := by
  intro hall
  have hgone : "port-1" ∉ ((sample.through (tidied [])).run .cleanup).1.pool.ports := by
    decide +kernel
  refine hgone (hall sample (tidied []) ⟨"ns", "web"⟩ "port-1" accounted_sample ?_ ?_)
  · decide +kernel
  · decide +kernel

/-- With the barrier in place a cleanup fails and leaves everything as it is. -/
theorem run_cleanup_of_barrier {worker : Worker} (h : worker.cleanupsAllowed = false) :
    worker.run .cleanup = (worker, some .barrierActive) := by
  simp [run, cleanup, h]

/-- What a cleanup that succeeds has done: the pool has lost exactly the ports without allocations
unless it is fixed, no service has gained or lost anything, and the tracked ports are those with
allocations and those that the pool still has. -/
structure Cleaned (before after : Worker) : Prop where
  fixed : ∀ pool, before.pool = .fixed pool → after.pool = .fixed pool
  dynamic : ∀ pool, before.pool = .dynamic pool → ∀ portId, portId ∈ after.pool.ports ↔
    portId ∈ before.pool.ports ∧ ∃ number id, before.allocator.Holds portId number id
  records : after.allocator.records = before.allocator.records
  holds : ∀ portId number id,
    after.allocator.Holds portId number id ↔ before.allocator.Holds portId number id
  tracked : ∀ portId, portId ∈ after.allocator.tracked ↔
    (∃ number id, before.allocator.Holds portId number id) ∨ portId ∈ after.pool.ports

/-- A cleanup that succeeds has cleaned the pool and tracks the ports that are left. -/
theorem run_cleanup_eq_none {worker : Worker} (h : (worker.run .cleanup).2 = none) :
    PortPool.clean worker.pool worker.allocator.usedPorts = .ok (worker.run .cleanup).1.pool ∧
      (worker.run .cleanup).1.allocator =
        worker.allocator.prune.track (worker.run .cleanup).1.pool.ports := by
  have hupkeep := worker.upkeep .cleanup trivial
  generalize worker.run .cleanup = outcome at h hupkeep ⊢
  cases hupkeep with
  | barred => cases h
  | refused => cases h
  | cleaned _ hclean => exact ⟨hclean, rfl⟩

/-- A cleanup that succeeds has cleaned. -/
theorem cleaned_run_cleanup {worker : Worker} (h : (worker.run .cleanup).2 = none) :
    worker.Cleaned (worker.run .cleanup).1 := by
  obtain ⟨hclean, hallocator⟩ := run_cleanup_eq_none h
  generalize (worker.run .cleanup).1 = after at hclean hallocator
  refine ⟨fun pool hpool => ?_, fun pool hpool portId => ?_, ?_, fun portId number id => ?_,
    fun portId => ?_⟩
  · rw [hpool] at hclean
    exact (Except.ok.inj hclean).symm
  · rw [hpool] at hclean ⊢
    rw [Pool.mem_ports_of_clean_dynamic hclean, Allocator.mem_usedPorts_iff]
  · rw [hallocator, Allocator.records_track]
    rfl
  · rw [hallocator, Allocator.holds_track, Allocator.holds_prune]
  · rw [hallocator, Allocator.mem_tracked_track, or_comm, Allocator.mem_tracked_prune]

/-- No job but a cleanup takes a port from the pool. -/
theorem mem_ports_run_of_ne_cleanup {worker : Worker} {job : Job} (hjob : job ≠ .cleanup)
    {portId : String} (h : portId ∈ worker.pool.ports) :
    portId ∈ (worker.run job).1.pool.ports := by
  rcases (worker.frame_run job).pool hjob with hpool | hpool
  · rwa [hpool]
  · rw [hpool]
    exact Pool.mem_ports_provision h

end Worker

end Balancer
