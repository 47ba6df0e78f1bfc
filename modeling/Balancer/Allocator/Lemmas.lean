import Balancer.Allocator

/-!
# What the operations of the allocator do

The allocator is seen through two views: the record of a service and the occupancy of a port.
Each lemma says what one operation does to one of them.
-/

namespace Balancer

namespace Allocator

/-- Tracking a port changes no record. -/
theorem records_trackOne (allocator : Allocator) (portId : String) :
    (allocator.trackOne portId).records = allocator.records := rfl

/-- Tracking a port changes no occupancy, its own included. -/
theorem occupancy_trackOne (allocator : Allocator) (portId other : String) :
    (allocator.trackOne portId).occupancy other = allocator.occupancy other := by
  simp only [occupancy, trackOne, Std.ExtTreeMap.getElem?_insertIfNew,
    Std.LawfulEqOrd.compare_eq_iff_eq]
  split
  · next h =>
    rw [← h.1, Std.ExtTreeMap.getElem?_eq_none h.2]
    rfl
  · rfl

/-- A tracked port is the new one or was tracked before. -/
theorem mem_tracked_trackOne (allocator : Allocator) (portId other : String) :
    other ∈ (allocator.trackOne portId).tracked ↔ other = portId ∨ other ∈ allocator.tracked := by
  simp only [trackOne, Std.ExtTreeMap.mem_insertIfNew, Std.LawfulEqOrd.compare_eq_iff_eq]
  rw [eq_comm]

/-- Tracking a tracked port changes nothing. -/
theorem trackOne_of_mem {allocator : Allocator} {portId : String}
    (h : portId ∈ allocator.tracked) : allocator.trackOne portId = allocator := by
  have htracked : allocator.tracked.insertIfNew portId {} = allocator.tracked := by
    apply Std.ExtTreeMap.ext_getElem?
    simp [Std.ExtTreeMap.getElem?_insertIfNew, h]
  rw [trackOne, htracked]

/-- Tracking ports changes no record. -/
theorem records_track (allocator : Allocator) (portIds : List String) :
    (allocator.track portIds).records = allocator.records := by
  induction portIds generalizing allocator with
  | nil => rfl
  | cons portId rest ih => exact ih (allocator.trackOne portId)

/-- Tracking ports changes no occupancy. -/
theorem occupancy_track (allocator : Allocator) (portIds : List String) (other : String) :
    (allocator.track portIds).occupancy other = allocator.occupancy other := by
  induction portIds generalizing allocator with
  | nil => rfl
  | cons portId rest ih =>
    exact (ih (allocator.trackOne portId)).trans (occupancy_trackOne allocator portId other)

/-- The tracked ports are the given ones and those tracked before. -/
theorem mem_tracked_track (allocator : Allocator) (portIds : List String) (other : String) :
    other ∈ (allocator.track portIds).tracked ↔ other ∈ portIds ∨ other ∈ allocator.tracked := by
  induction portIds generalizing allocator with
  | nil => simp [track]
  | cons portId rest ih =>
    have h := ih (allocator.trackOne portId)
    rw [mem_tracked_trackOne] at h
    rw [List.mem_cons, or_assoc, or_left_comm]
    exact h

/-- The records after a service was unmapped. -/
theorem records_unmap (allocator : Allocator) (id other : ServiceId) :
    (allocator.unmap id).records[other]? =
      if other = id then none else allocator.records[other]? := by
  simp only [unmap, Std.ExtTreeMap.getElem?_erase, Std.LawfulEqOrd.compare_eq_iff_eq]
  simp [eq_comm]

/-- Unmapping a service takes away its own record only. -/
theorem mem_records_unmap (allocator : Allocator) (id other : ServiceId) :
    other ∈ (allocator.unmap id).records ↔ other ≠ id ∧ other ∈ allocator.records := by
  rw [Std.ExtTreeMap.mem_iff_isSome_getElem?, Std.ExtTreeMap.mem_iff_isSome_getElem?,
    records_unmap]
  by_cases h : other = id
  · simp [h]
  · simp [h]

/-- The occupancy of a port after a service was unmapped. -/
theorem occupancy_unmap (allocator : Allocator) (id : ServiceId) (portId : String) :
    (allocator.unmap id).occupancy portId = (allocator.occupancy portId).release id := by
  simp only [occupancy, unmap, Std.ExtTreeMap.getElem?_map]
  cases allocator.tracked[portId]? with
  | none => rfl
  | some _ => rfl

/-- Unmapping tracks the same ports. -/
theorem mem_tracked_unmap (allocator : Allocator) (id : ServiceId) (portId : String) :
    portId ∈ (allocator.unmap id).tracked ↔ portId ∈ allocator.tracked := by
  simp [unmap]

/-- The records after a service was bound. -/
theorem records_bind (allocator : Allocator) (id other : ServiceId) (ports : List TransportPort)
    (portId : String) :
    (allocator.bind id ports portId).records[other]? =
      if other = id then some { portId, ports } else allocator.records[other]? := by
  simp only [bind, Std.ExtTreeMap.getElem?_insert, Std.LawfulEqOrd.compare_eq_iff_eq]
  by_cases h : id = other
  · simp [h]
  · have h' : other ≠ id := fun e => h e.symm
    rw [if_neg h, if_neg h']
    split
    · rw [records_unmap, if_neg h']
    · rfl

/-- Binding a service adds its own record only. -/
theorem mem_records_bind (allocator : Allocator) (id other : ServiceId)
    (ports : List TransportPort) (portId : String) :
    other ∈ (allocator.bind id ports portId).records ↔ other = id ∨ other ∈ allocator.records := by
  rw [Std.ExtTreeMap.mem_iff_isSome_getElem?, Std.ExtTreeMap.mem_iff_isSome_getElem?,
    records_bind]
  by_cases h : other = id
  · simp [h]
  · simp [h]

/-- The occupancy of a port after a mapped service was bound. -/
theorem occupancy_bind_of_mem (allocator : Allocator) (id : ServiceId)
    (ports : List TransportPort) (portId other : String) (h : id ∈ allocator.records) :
    (allocator.bind id ports portId).occupancy other =
      if other = portId then ((allocator.occupancy other).release id).occupy id ports
      else (allocator.occupancy other).release id := by
  simp only [bind, if_pos h]
  rw [occupancy, Std.ExtTreeMap.getElem?_insert]
  simp only [Std.LawfulEqOrd.compare_eq_iff_eq]
  by_cases hother : portId = other
  · simp [hother, occupancy_unmap]
  · have hother' : other ≠ portId := fun e => hother e.symm
    rw [if_neg hother, if_neg hother']
    exact occupancy_unmap allocator id other

/-- The occupancy of a port after an unmapped service was bound. -/
theorem occupancy_bind_of_not_mem (allocator : Allocator) (id : ServiceId)
    (ports : List TransportPort) (portId other : String) (h : id ∉ allocator.records) :
    (allocator.bind id ports portId).occupancy other =
      if other = portId then (allocator.occupancy other).occupy id ports
      else allocator.occupancy other := by
  simp only [bind, if_neg h]
  rw [occupancy, Std.ExtTreeMap.getElem?_insert]
  simp only [Std.LawfulEqOrd.compare_eq_iff_eq]
  by_cases hother : portId = other
  · simp [hother]
  · have hother' : other ≠ portId := fun e => hother e.symm
    rw [if_neg hother, if_neg hother']
    rfl

/-- Allocators with the same records and occupancies of the same tracked ports are equal. -/
theorem ext_entries {allocator other : Allocator}
    (hrecords : ∀ id : ServiceId, allocator.records[id]? = other.records[id]?)
    (htracked : ∀ portId : String, allocator.tracked[portId]? = other.tracked[portId]?) :
    allocator = other := by
  obtain ⟨records, tracked⟩ := allocator
  obtain ⟨records', tracked'⟩ := other
  rw [mk.injEq]
  exact ⟨Std.ExtTreeMap.ext_getElem? (hrecords ·), Std.ExtTreeMap.ext_getElem? (htracked ·)⟩

/-- Binding a service tracks its port in any case. -/
theorem bind_trackOne (allocator : Allocator) (id : ServiceId) (ports : List TransportPort)
    (portId : String) :
    (allocator.trackOne portId).bind id ports portId = allocator.bind id ports portId := by
  have hother (other : String) (hne : portId ≠ other) :
      (allocator.trackOne portId).tracked[other]? = allocator.tracked[other]? := by
    simp [trackOne, Std.ExtTreeMap.getElem?_insertIfNew, hne]
  refine ext_entries (fun other => ?_) fun other => ?_
  · rw [records_bind, records_bind, records_trackOne]
  · by_cases hmem : id ∈ allocator.records
    · have hmem' : id ∈ (allocator.trackOne portId).records := hmem
      simp only [bind, if_pos hmem, if_pos hmem', Std.ExtTreeMap.getElem?_insert, occupancy_unmap,
        occupancy_trackOne, Std.LawfulEqOrd.compare_eq_iff_eq]
      split
      · rfl
      · next hne => simp only [unmap, Std.ExtTreeMap.getElem?_map, hother other hne]
    · have hmem' : id ∉ (allocator.trackOne portId).records := hmem
      simp only [bind, if_neg hmem, if_neg hmem', Std.ExtTreeMap.getElem?_insert,
        occupancy_trackOne, Std.LawfulEqOrd.compare_eq_iff_eq]
      split
      · rfl
      · next hne => exact hother other hne

/-- Pruning drops exactly the tracked ports without allocations. -/
theorem tracked_prune (allocator : Allocator) (portId : String) :
    allocator.prune.tracked[portId]? =
      allocator.tracked[portId]?.filter fun occupancy => !occupancy.isEmpty := by
  simp [prune]

/-- The ports that stay are the listed ones. -/
theorem tracked_setAvailable (allocator : Allocator) (portIds : List String) (portId : String) :
    (allocator.setAvailable portIds).2.tracked[portId]? =
      if portId ∈ portIds then allocator.tracked[portId]? else none := by
  simp only [setAvailable, Std.ExtTreeMap.getElem?_filter']
  by_cases h : portId ∈ portIds
  · cases allocator.tracked[portId]? <;> simp [h]
  · simp [h]

/-- The records that stay are those of services without an allocation on a lost port. -/
theorem records_setAvailable (allocator : Allocator) (portIds : List String) (id : ServiceId) :
    (allocator.setAvailable portIds).2.records[id]? =
      if id ∈ allocator.strandedBy portIds then none else allocator.records[id]? := by
  simp only [setAvailable, Std.ExtTreeMap.getElem?_filter']
  by_cases h : id ∈ allocator.strandedBy portIds
  · simp [h]
  · cases allocator.records[id]? <;> simp [h]

/-- Losing ports adds no record. -/
theorem mem_records_of_mem_setAvailable {allocator : Allocator} {portIds : List String}
    {id : ServiceId} (h : id ∈ (allocator.setAvailable portIds).2.records) :
    id ∈ allocator.records :=
  Std.ExtTreeMap.mem_of_mem_filter h

/-- The evicted services are the mapped ones with an allocation on a lost port. -/
theorem mem_evicted_iff (allocator : Allocator) (portIds : List String) (id : ServiceId) :
    id ∈ (allocator.setAvailable portIds).1 ↔
      id ∈ allocator.records ∧ id ∈ allocator.strandedBy portIds := by
  simp [setAvailable]

end Allocator

end Balancer
