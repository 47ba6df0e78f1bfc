import Mathlib
import Balancer.Proofs.Allocator.Placement
import Balancer.Proofs.Containers
import Balancer.Proofs.Pool.History

/-!
# Exact occupancy

The two views of the allocator agree: a port number is taken on an L3 port exactly by the service
whose record names that port and lists that number. Every call keeps this, as long as the ports
made for services are new to the allocator, and they are new because every tracked port of a
dynamic pool was issued by the pool before.
-/

namespace Balancer

namespace Allocator

/-- A service holds a port number on a tracked L3 port. -/
def Holds (allocator : Allocator) (portId : String) (number : UInt16) (id : ServiceId) : Prop :=
  ∃ occupancy, allocator.tracked[portId]? = some occupancy ∧ occupancy.owners[number]? = some id

/-- A service has a record on an L3 port that lists a port number. -/
def Lists (allocator : Allocator) (portId : String) (number : UInt16) (id : ServiceId) : Prop :=
  ∃ record, allocator.records[id]? = some record ∧ record.portId = portId ∧
    ∃ port ∈ record.ports, port.number = number

/-- Occupancy and records agree. -/
def Exact (allocator : Allocator) : Prop :=
  ∀ portId number id, allocator.Holds portId number id ↔ allocator.Lists portId number id

/-- Who holds what can be read off the occupancy, tracked or not. -/
theorem holds_iff (allocator : Allocator) (portId : String) (number : UInt16) (id : ServiceId) :
    allocator.Holds portId number id ↔
      (allocator.occupancy portId).owners[number]? = some id := by
  unfold Holds occupancy
  cases allocator.tracked[portId]? with
  | none => simp
  | some occupancy => simp

/-- A port is tracked if a service holds a number on it. -/
theorem Holds.tracked {allocator : Allocator} {portId : String} {number : UInt16} {id : ServiceId}
    (h : allocator.Holds portId number id) : portId ∈ allocator.tracked := by
  obtain ⟨occupancy, htracked, -⟩ := h
  exact mem_of_getElem?_eq_some htracked

/-- Tracking ports gives nobody a number and takes none away. -/
theorem holds_track (allocator : Allocator) (portIds : List String) (portId : String)
    (number : UInt16) (id : ServiceId) :
    (allocator.track portIds).Holds portId number id ↔ allocator.Holds portId number id := by
  rw [holds_iff, holds_iff, occupancy_track]

/-- Agreement depends on the two views only. -/
theorem Exact.of_views {allocator other : Allocator} (hexact : allocator.Exact)
    (hrecords : other.records = allocator.records)
    (hoccupancy : ∀ portId, other.occupancy portId = allocator.occupancy portId) :
    other.Exact := by
  intro portId number id
  have h := hexact portId number id
  rw [holds_iff] at h ⊢
  rw [hoccupancy, h]
  simp only [Lists, hrecords]

/-- A fresh allocator is exact. -/
theorem exact_empty : Exact {} := by
  intro portId number id
  rw [holds_iff]
  simp [occupancy, Lists]

/-- Tracking ports keeps the occupancy exact. -/
theorem Exact.track {allocator : Allocator} (hexact : allocator.Exact) (portIds : List String) :
    (allocator.track portIds).Exact :=
  hexact.of_views (records_track allocator portIds) (occupancy_track allocator portIds)

/-- Starting an untracked port with nothing on it changes no occupancy. -/
theorem occupancy_startPort {allocator : Allocator} {portId : String}
    (hnew : portId ∉ allocator.tracked) (other : String) :
    occupancy { allocator with tracked := allocator.tracked.insert portId {} } other =
      allocator.occupancy other := by
  simp only [occupancy, Std.ExtTreeMap.getElem?_insert, Std.LawfulEqOrd.compare_eq_iff_eq]
  split
  · next hsame =>
    subst hsame
    rw [Std.ExtTreeMap.getElem?_eq_none hnew]
    rfl
  · rfl

/-- Starting an untracked port with nothing on it keeps the occupancy exact. -/
theorem Exact.startPort {allocator : Allocator} (hexact : allocator.Exact) {portId : String}
    (hnew : portId ∉ allocator.tracked) :
    Exact { allocator with tracked := allocator.tracked.insert portId {} } :=
  hexact.of_views rfl (occupancy_startPort hnew)

/-- Pruning drops nothing that is occupied. -/
theorem occupancy_prune (allocator : Allocator) (portId : String) :
    allocator.prune.occupancy portId = allocator.occupancy portId := by
  simp only [occupancy, tracked_prune]
  cases allocator.tracked[portId]? with
  | none => rfl
  | some occupancy =>
    by_cases hempty : occupancy.isEmpty = true
    · have howners : occupancy.owners = ∅ := Std.ExtTreeMap.isEmpty_iff.mp hempty
      simp only [Option.filter_some, hempty, Bool.not_true, Bool.false_eq_true, if_false]
      cases occupancy
      cases howners
      rfl
    · simp only [Bool.not_eq_true] at hempty
      simp only [Option.filter_some, hempty, Bool.not_false, if_true]

/-- Pruning takes nobody's numbers away. -/
theorem holds_prune (allocator : Allocator) (portId : String) (number : UInt16) (id : ServiceId) :
    allocator.prune.Holds portId number id ↔ allocator.Holds portId number id := by
  rw [holds_iff, holds_iff, occupancy_prune]

/-- Pruning keeps the occupancy exact. -/
theorem Exact.prune {allocator : Allocator} (hexact : allocator.Exact) : allocator.prune.Exact :=
  hexact.of_views rfl allocator.occupancy_prune

/-- Unmapping a service takes exactly its own numbers back. -/
theorem holds_unmap (allocator : Allocator) (id other : ServiceId) (portId : String)
    (number : UInt16) :
    (allocator.unmap id).Holds portId number other ↔
      allocator.Holds portId number other ∧ other ≠ id := by
  rw [holds_iff, holds_iff, occupancy_unmap, Occupancy.owners_release, Option.filter_eq_some_iff]
  simp

/-- Unmapping a service keeps the occupancy exact. -/
theorem Exact.unmap {allocator : Allocator} (hexact : allocator.Exact) (id : ServiceId) :
    (allocator.unmap id).Exact := by
  intro portId number other
  rw [holds_unmap, hexact portId number other]
  simp only [Lists, records_unmap]
  by_cases hother : other = id
  · simp [hother]
  · simp [hother]

/-- After binding, a service holds what it asked for, and every other service what it held before,
the numbers asked for excepted. -/
theorem Exact.holds_bind {allocator : Allocator} (hexact : allocator.Exact) (id other : ServiceId)
    (ports : List TransportPort) (portId otherPort : String) (number : UInt16) :
    (allocator.bind id ports portId).Holds otherPort number other ↔
      if otherPort = portId ∧ number ∈ ports.map (·.number) then other = id
      else allocator.Holds otherPort number other ∧ other ≠ id := by
  rw [holds_iff]
  by_cases hmem : id ∈ allocator.records
  · rw [occupancy_bind_of_mem _ _ _ _ _ hmem, holds_iff]
    by_cases hport : otherPort = portId
    · by_cases hnumber : number ∈ ports.map (·.number)
      · simp only [hport, hnumber, if_true, Occupancy.owners_occupy, and_self]
        rw [Option.some.injEq, eq_comm]
      · simp only [hport, hnumber, if_true, Occupancy.owners_occupy, if_false, and_false,
          Occupancy.owners_release, Option.filter_eq_some_iff, decide_eq_true_eq]
    · simp only [hport, if_false, false_and, Occupancy.owners_release, Option.filter_eq_some_iff,
        decide_eq_true_eq]
  · rw [occupancy_bind_of_not_mem _ _ _ _ _ hmem]
    -- An unmapped service holds nothing, so nothing has to be taken back.
    have hnone : allocator.Holds otherPort number other → other ≠ id := by
      rintro hholds rfl
      obtain ⟨record, hrecord, -⟩ := (hexact _ _ _).mp hholds
      exact hmem (mem_of_getElem?_eq_some hrecord)
    rw [and_iff_left_of_imp hnone, holds_iff]
    by_cases hport : otherPort = portId
    · by_cases hnumber : number ∈ ports.map (·.number)
      · simp only [hport, hnumber, if_true, Occupancy.owners_occupy, and_self]
        rw [Option.some.injEq, eq_comm]
      · simp only [hport, hnumber, if_true, Occupancy.owners_occupy, if_false, and_false]
    · simp only [hport, if_false, false_and]

/-- Binding a service keeps the occupancy exact when no other service holds a number it asks
for. -/
theorem Exact.bind {allocator : Allocator} (hexact : allocator.Exact) {id : ServiceId}
    {ports : List TransportPort} {portId : String}
    (hroom : ∀ port ∈ ports, ∀ holder,
      (allocator.occupancy portId).owners[port.number]? = some holder → holder = id) :
    (allocator.bind id ports portId).Exact := by
  intro otherPort number other
  rw [hexact.holds_bind, hexact otherPort number other]
  simp only [Lists, records_bind]
  by_cases hother : other = id
  · subst hother
    simp only [if_true, ne_eq, not_true_eq_false, and_false, Option.some.injEq, exists_eq_left',
      List.mem_map]
    split
    · next h => exact ⟨fun _ => ⟨h.1.symm, h.2⟩, fun _ => trivial⟩
    · next h => exact ⟨False.elim, fun h' => h ⟨h'.1.symm, h'.2⟩⟩
  · simp only [hother, if_false, ne_eq, not_false_eq_true, and_true]
    split
    · next h =>
      refine ⟨False.elim, ?_⟩
      intro hlists
      obtain ⟨record, hrecord, hon, hlisted⟩ := hlists
      -- The other service would hold a number that the bound one asks for.
      have hholds := (hexact otherPort number other).mpr ⟨record, hrecord, hon, hlisted⟩
      rw [holds_iff, h.1] at hholds
      obtain ⟨port, hport, rfl⟩ := List.mem_map.mp h.2
      exact hother (hroom port hport other hholds)
    · rfl

/-- A service is stranded when it holds a number on a port outside the list. -/
theorem mem_strandedBy_iff (allocator : Allocator) (portIds : List String) (id : ServiceId) :
    id ∈ allocator.strandedBy portIds ↔
      ∃ portId number, portId ∉ portIds ∧ allocator.Holds portId number id := by
  simp only [strandedBy, List.mem_flatMap, List.mem_filter, decide_eq_true_eq, Prod.exists,
    Std.ExtTreeMap.mem_toList_iff_getElem?_eq_some, Holds, mem_values_iff]
  constructor
  · intro hstranded
    obtain ⟨portId, occupancy, ⟨htracked, hout⟩, number, hnumber⟩ := hstranded
    exact ⟨portId, number, hout, occupancy, htracked, hnumber⟩
  · intro hholds
    obtain ⟨portId, number, hout, occupancy, htracked, hnumber⟩ := hholds
    exact ⟨portId, occupancy, ⟨htracked, hout⟩, number, hnumber⟩

/-- On the ports that stay, every service holds what it held. -/
theorem holds_setAvailable (allocator : Allocator) (portIds : List String) (portId : String)
    (number : UInt16) (id : ServiceId) :
    (allocator.setAvailable portIds).2.Holds portId number id ↔
      portId ∈ portIds ∧ allocator.Holds portId number id := by
  simp only [Holds, tracked_setAvailable]
  by_cases hlisted : portId ∈ portIds
  · simp [hlisted]
  · simp [hlisted]

/-- A service that is recorded on a port in the list is not stranded: all that it holds is on the
port of its record. -/
theorem Exact.not_mem_strandedBy {allocator : Allocator} (hexact : allocator.Exact)
    {id : ServiceId} {record : Mapping} (hrecord : allocator.records[id]? = some record)
    {portIds : List String} (hlisted : record.portId ∈ portIds) :
    id ∉ allocator.strandedBy portIds := by
  intro hstranded
  obtain ⟨other, number, hout, hholds⟩ := (mem_strandedBy_iff _ _ _).mp hstranded
  obtain ⟨record', hrecord', rfl, -⟩ := (hexact _ _ _).mp hholds
  cases hrecord.symm.trans hrecord'
  exact hout hlisted

/-- Dropping ports keeps the occupancy exact: the services on them lose their records too. -/
theorem Exact.setAvailable {allocator : Allocator} (hexact : allocator.Exact)
    (portIds : List String) : (allocator.setAvailable portIds).2.Exact := by
  intro portId number id
  rw [holds_setAvailable, hexact portId number id]
  simp only [Lists, records_setAvailable]
  constructor
  · intro hkept
    obtain ⟨hlisted, record, hrecord, rfl, hnumber⟩ := hkept
    have hkept := hexact.not_mem_strandedBy hrecord hlisted
    exact ⟨record, by rw [if_neg hkept]; exact hrecord, rfl, hnumber⟩
  · intro hlists
    obtain ⟨record, hrecord, rfl, hnumber⟩ := hlists
    split at hrecord
    · cases hrecord
    · next hkept =>
      refine ⟨?_, record, hrecord, rfl, hnumber⟩
      by_contra hout
      have hholds := (hexact _ _ _).mpr ⟨record, hrecord, rfl, hnumber⟩
      exact hkept ((mem_strandedBy_iff _ _ _).mpr ⟨_, number, hout, hholds⟩)

end Allocator

end Balancer
