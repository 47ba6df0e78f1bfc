import Mathlib
import Balancer.Proofs.Allocator.Exactness
import Balancer.Proofs.Pool.Availability

/-!
# Ports that services keep

A service that is mapped again with the ports of its record keeps its L3 port as long as the pool
has it, and nothing in the bookkeeping changes. The mapping of another service or its end takes
nothing from it. So a service moves only if it asks for other ports or if its port is gone.
-/

namespace Balancer

namespace Occupancy

/-- Occupancies in which every number has the same owner are equal. -/
theorem ext_owners {occupancy other : Occupancy}
    (h : ∀ number : UInt16, occupancy.owners[number]? = other.owners[number]?) :
    occupancy = other := by
  obtain ⟨owners⟩ := occupancy
  obtain ⟨owners'⟩ := other
  exact congrArg mk (Std.ExtTreeMap.ext_getElem? (h ·))

variable {occupancy : Occupancy} {id : ServiceId} {ports : List TransportPort}

/-- Releasing an owner leaves the owners of other numbers alone. -/
theorem owners_release_of_ne {number : UInt16} (h : occupancy.owners[number]? ≠ some id) :
    (occupancy.release id).owners[number]? = occupancy.owners[number]? := by
  rw [owners_release]
  cases howner : occupancy.owners[number]? with
  | none => rfl
  | some holder =>
    have hne : holder ≠ id := by
      rintro rfl
      exact h howner
    simp [hne]

/-- Releasing an owner that holds nothing changes nothing. -/
theorem release_eq_self (hfree : ∀ number : UInt16, occupancy.owners[number]? ≠ some id) :
    occupancy.release id = occupancy :=
  ext_owners fun number => owners_release_of_ne (hfree number)

/-- Releasing an owner and giving it back what it held changes nothing. -/
theorem occupy_release_eq_self (hholds : ∀ number : UInt16,
      occupancy.owners[number]? = some id ↔ number ∈ ports.map (·.number)) :
    (occupancy.release id).occupy id ports = occupancy := by
  apply ext_owners
  intro number
  rw [owners_occupy]
  split
  · next hnumber => exact ((hholds number).mpr hnumber).symm
  · next hnumber => exact owners_release_of_ne fun howner => hnumber ((hholds number).mp howner)

end Occupancy

namespace Allocator

/-- A service is settled on a tracked port, with the given ports in its record. -/
structure Settled (allocator : Allocator) (id : ServiceId) (ports : List TransportPort)
    (portId : String) : Prop where
  record : allocator.records[id]? = some { portId, ports }
  tracked : portId ∈ allocator.tracked

variable {allocator : Allocator} {id other : ServiceId} {ports : List TransportPort}
  {portId : String}

/-- The record of a settled service says what it holds. -/
theorem Settled.holds_iff (h : allocator.Settled id ports portId) (hexact : allocator.Exact)
    (otherPort : String) (number : UInt16) :
    allocator.Holds otherPort number id ↔
      otherPort = portId ∧ number ∈ ports.map (·.number) := by
  rw [hexact otherPort number id]
  constructor
  · intro hlists
    obtain ⟨record, hrecord, rfl, port, hport, rfl⟩ := hlists
    cases hrecord.symm.trans h.record
    exact ⟨rfl, List.mem_map_of_mem hport⟩
  · rintro ⟨rfl, hnumber⟩
    obtain ⟨port, hport, rfl⟩ := List.mem_map.mp hnumber
    exact ⟨_, h.record, rfl, port, hport, rfl⟩

/-- The numbers of a settled service fit its own port. -/
theorem Settled.fits (h : allocator.Settled id ports portId) (hexact : allocator.Exact) :
    (allocator.occupancy portId).fits ports (some id) = true := by
  rw [Occupancy.fits_iff]
  intro port hport holder hholder
  have hholds := (h.holds_iff hexact portId port.number).mpr ⟨rfl, List.mem_map_of_mem hport⟩
  rw [Allocator.holds_iff, hholder] at hholds
  exact hholds

/-- Binding a settled service again changes nothing. -/
theorem Settled.bind_eq (h : allocator.Settled id ports portId) (hexact : allocator.Exact) :
    allocator.bind id ports portId = allocator := by
  have hmem : id ∈ allocator.records := mem_of_getElem?_eq_some h.record
  have hholds (otherPort : String) (occupancy : Occupancy)
      (htracked : allocator.tracked[otherPort]? = some occupancy) (number : UInt16) :
      occupancy.owners[number]? = some id ↔
        otherPort = portId ∧ number ∈ ports.map (·.number) := by
    rw [← h.holds_iff hexact otherPort number, Allocator.holds_iff, Allocator.occupancy, htracked]
    rfl
  refine ext_entries (fun other => ?_) fun otherPort => ?_
  · rw [records_bind]
    split
    · next hother => rw [hother, h.record]
    · rfl
  · simp only [bind, if_pos hmem, Std.ExtTreeMap.getElem?_insert,
      Std.LawfulEqOrd.compare_eq_iff_eq, occupancy_unmap]
    by_cases hport : portId = otherPort
    · subst hport
      have hfound := Std.ExtTreeMap.getElem?_eq_some_getElem h.tracked
      rw [if_pos rfl, hfound, Allocator.occupancy, hfound, Option.getD_some,
        Occupancy.occupy_release_eq_self]
      intro number
      simpa using hholds portId _ hfound number
    · rw [if_neg hport]
      simp only [unmap, Std.ExtTreeMap.getElem?_map]
      cases hfound : allocator.tracked[otherPort]? with
      | none => rfl
      | some occupancy =>
        rw [Option.map_some, Occupancy.release_eq_self]
        intro number hnumber
        exact hport ((hholds otherPort occupancy hfound number).mp hnumber).1.symm

/-- A service keeps its port when it is mapped again with the ports of its record, as long as the
pool has the port. At most the port is tracked again. -/
theorem Exact.map_eq_recorded {pool : Pool} (hexact : allocator.Exact)
    (hrecord : allocator.records[id]? = some { portId, ports }) (hoffers : pool.Offers portId)
    (preferred : Option String) :
    allocator.map pool id ports preferred = (.ok (portId, allocator.trackOne portId), pool) := by
  have hsettled : (allocator.trackOne portId).Settled id ports portId :=
    ⟨hrecord, (mem_tracked_trackOne _ _ _).mpr (Or.inl rfl)⟩
  have htracking : (allocator.trackOne portId).Exact := hexact.track [portId]
  have hcandidate : allocator.candidate id preferred = some portId := by
    simp only [candidate, hrecord]
  have haccepts : allocator.accepts pool id ports portId = .ok true := by
    have hfits := hsettled.fits htracking
    rw [occupancy_trackOne] at hfits
    unfold accepts
    rw [hoffers, hfits]
    rfl
  have hbind : allocator.bind id ports portId = allocator.trackOne portId := by
    rw [← bind_trackOne, hsettled.bind_eq htracking]
  simp only [map, place, hcandidate, haccepts, prepare, Placement.portId, hbind]

/-- A settled service keeps its port when it is mapped again, and nothing changes. -/
theorem Settled.map_eq {pool : Pool} (h : allocator.Settled id ports portId)
    (hexact : allocator.Exact) (hoffers : pool.Offers portId) (preferred : Option String) :
    allocator.map pool id ports preferred = (.ok (portId, allocator), pool) := by
  rw [hexact.map_eq_recorded h.record hoffers, trackOne_of_mem h.tracked]

/-- A service without a record takes the port that it prefers, if the port is there and no recorded
service has one of its numbers on it. Nothing else changes. -/
theorem Exact.map_eq_preferred {pool : Pool} (hexact : allocator.Exact)
    (hfree : allocator.records[id]? = none) (hname : portId ≠ "") (hoffers : pool.Offers portId)
    (hroom : ∀ (holder : ServiceId) (record : Mapping), allocator.records[holder]? = some record →
      record.portId = portId → ∀ port ∈ ports, port.number ∉ record.ports.map (·.number)) :
    allocator.map pool id ports (some portId) =
      (.ok (portId, allocator.bind id ports portId), pool) := by
  have hcandidate : allocator.candidate id (some portId) = some portId := by
    simp [candidate, hfree, hname]
  have hfits : (allocator.occupancy portId).fits ports (some id) = true := by
    rw [Occupancy.fits_iff]
    intro port hport holder hholder
    obtain ⟨record, hrecord, hon, taken, htaken, hnumber⟩ :=
      (hexact portId port.number holder).mp ((allocator.holds_iff _ _ _).mpr hholder)
    exact absurd (hnumber ▸ List.mem_map_of_mem htaken) (hroom holder record hrecord hon port hport)
  have haccepts : allocator.accepts pool id ports portId = .ok true := by
    unfold accepts
    rw [hoffers, hfits]
    rfl
  simp only [map, place, hcandidate, haccepts, prepare, Placement.portId]

/-- Mapping a service settles it. -/
theorem settled_of_map_eq_ok {mapped : Allocator} {pool rest : Pool} {preferred : Option String}
    (h : allocator.map pool id ports preferred = (.ok (portId, mapped), rest)) :
    mapped.Settled id ports portId := by
  obtain ⟨prepared, hplaced, rfl⟩ := placed_of_map_eq_ok h
  constructor
  · rw [records_bind, if_pos rfl]
  · exact (hplaced.mem_tracked portId).mpr (Or.inl rfl)

/-- A service stays settled while another one is mapped. -/
theorem Settled.of_map (h : allocator.Settled id ports portId) (hother : id ≠ other)
    {mapped : Allocator} {pool rest : Pool} {ports' : List TransportPort}
    {preferred : Option String} {portId' : String}
    (hmap : allocator.map pool other ports' preferred = (.ok (portId', mapped), rest)) :
    mapped.Settled id ports portId := by
  obtain ⟨prepared, hplaced, rfl⟩ := placed_of_map_eq_ok hmap
  constructor
  · rw [records_bind, if_neg hother, hplaced.records_eq]
    exact h.record
  · exact (hplaced.mem_tracked portId).mpr (Or.inr h.tracked)

/-- A service stays settled while another one is unmapped. -/
theorem Settled.unmap (h : allocator.Settled id ports portId) (hother : id ≠ other) :
    (allocator.unmap other).Settled id ports portId := by
  constructor
  · rw [records_unmap, if_neg hother]
    exact h.record
  · exact (mem_tracked_unmap _ _ _).mpr h.tracked

/-- Every tracked port is there. -/
def Present (allocator : Allocator) (pool : Pool) : Prop :=
  ∀ portId ∈ allocator.tracked, pool.Offers portId

/-- Mapping a service leaves every tracked port there, and the pool within reach. -/
theorem Present.map {pool : Pool} (h : allocator.Present pool) (hpool : pool.Online)
    {mapped : Allocator} {rest : Pool} {preferred : Option String}
    (hmap : allocator.map pool id ports preferred = (.ok (portId, mapped), rest)) :
    mapped.Present rest ∧ rest.Online := by
  obtain ⟨prepared, hplaced, rfl⟩ := placed_of_map_eq_ok hmap
  have htracked := hplaced.mem_tracked
  cases hplaced with
  | kept _ hpresent _ =>
    refine ⟨fun other hother => ?_, hpool⟩
    rcases (htracked other).mp hother with rfl | hold
    · exact hpresent
    · exact h other hold
  | found skip hfirst =>
    refine ⟨fun other hother => ?_, hpool⟩
    rcases (htracked other).mp hother with rfl | hold
    · obtain ⟨-, occupancy, hoccupancy, -⟩ := firstFit_eq_some hfirst
      exact h other (mem_of_getElem?_eq_some hoccupancy)
    · exact h other hold
  | made hmade =>
    have hrest : rest = (PortPool.provision pool).2 := by rw [hmade]
    refine ⟨fun other hother => ?_, hrest ▸ hpool.provision⟩
    rcases (htracked other).mp hother with rfl | hold
    · exact hpool.offers_of_provision hmade
    · exact hrest ▸ (h other hold).provision

/-- A pool that can be reached lets a search fail only for want of a port. -/
theorem eq_of_search_error {pool : Pool} (hpool : pool.Online) (skip : Option String)
    {error : AllocatorError} (h : (allocator.search pool ports skip).1 = .error error) :
    error = .noSuitablePort := by
  unfold search at h
  split at h
  · cases h
  · unfold provision at h
    split at h
    · cases h
    · next cause rest hrefused =>
      have hexhausted := hpool.isExhausted_of_provision (congrArg Prod.fst hrefused)
      rw [if_pos hexhausted] at h
      exact (Except.error.inj h).symm

/-- A pool that can be reached lets a mapping fail only for want of a port. -/
theorem eq_of_map_error {pool : Pool} (hpool : pool.Online) {preferred : Option String}
    {error : AllocatorError} (h : (allocator.map pool id ports preferred).1 = .error error) :
    error = .noSuitablePort := by
  have hplace : (allocator.place pool id ports preferred).1 = .error error := by
    unfold map at h
    split at h
    · next heq =>
      rw [heq]
      exact congrArg Except.error (Except.error.inj h)
    · cases h
  unfold place at hplace
  split at hplace
  · exact eq_of_search_error hpool none hplace
  · next candidate _ =>
    have haccepts : ∃ accepted, allocator.accepts pool id ports candidate = .ok accepted := by
      unfold accepts
      rcases hpool.hasPort_cases candidate with hpresent | habsent
      · rw [hpresent]
        exact ⟨_, rfl⟩
      · rw [habsent]
        exact ⟨_, rfl⟩
    obtain ⟨accepted, haccepts⟩ := haccepts
    rw [haccepts] at hplace
    cases accepted with
    | true => cases hplace
    | false => exact eq_of_search_error hpool (some candidate) hplace

end Allocator

end Balancer
