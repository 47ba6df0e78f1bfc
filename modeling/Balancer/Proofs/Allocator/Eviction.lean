import Mathlib
import Balancer.Proofs.Allocator.History
import Balancer.Proofs.Ascending

/-!
# Eviction from ports that are lost

When ports are lost, their owners are gone through number by number. Each owner that still has a
record loses it and is noted, and so a service is noted once however many numbers and ports it has.
Since the occupancy is exact, a service that is noted has lost all its numbers, and a service that
is not noted has lost none.

A service without numbers is no owner. It keeps its record on a port that is lost.
-/

namespace Balancer

/-- The bookkeeping while ports are given up, with the services evicted so far. -/
structure Eviction where
  evicted : Std.ExtTreeSet ServiceId := ∅
  allocator : Allocator

namespace Eviction

/-- Take its record from a service and note the service, unless it has none. -/
def evict (state : Eviction) (id : ServiceId) : Eviction :=
  if id ∈ state.allocator.records then
    { evicted := state.evicted.insert id
      allocator := { state.allocator with records := state.allocator.records.erase id } }
  else state

/-- Evict several services one after the other. -/
def evictAll (state : Eviction) (ids : List ServiceId) : Eviction :=
  ids.foldl evict state

/-- Stop tracking a port. -/
def untrack (state : Eviction) (portId : String) : Eviction :=
  { state with allocator :=
    { state.allocator with tracked := state.allocator.tracked.erase portId } }

/-- Stop tracking a port, and evict the owner of every number on it. -/
def drop (state : Eviction) (portId : String) : Eviction :=
  match state.allocator.tracked[portId]? with
  | none => state
  | some occupancy => (state.untrack portId).evictAll occupancy.owners.values

/-- Drop several ports one after the other. -/
def dropAll (state : Eviction) (portIds : List String) : Eviction :=
  portIds.foldl drop state

/-- What has happened once the owners were gone through: those with a record are noted, and the
records of the noted services are gone. -/
structure Noted (start : Allocator) (owners : Set ServiceId) (state : Eviction) : Prop where
  evicted : ∀ id, id ∈ state.evicted ↔ id ∈ start.records ∧ id ∈ owners
  records : ∀ id : ServiceId, state.allocator.records[id]? =
    if id ∈ state.evicted then none else start.records[id]?

variable {start : Allocator} {owners : Set ServiceId} {portIds : List String} {state : Eviction}

/-- One more owner. -/
theorem Noted.evict (h : Noted start owners state) (id : ServiceId) :
    Noted start (insert id owners) (state.evict id) := by
  have hmapped : id ∈ state.allocator.records ↔ id ∈ start.records ∧ id ∉ state.evicted := by
    rw [Std.ExtTreeMap.mem_iff_isSome_getElem?, h.records, Std.ExtTreeMap.mem_iff_isSome_getElem?]
    split
    · next hnoted => simp [hnoted]
    · next hnoted => simp [hnoted]
  have hevicted := h.evicted
  have hrecords := h.records
  unfold Eviction.evict
  split
  · next hnew =>
    rw [hmapped] at hnew
    refine ⟨fun other => ?_, fun other => ?_⟩
    · simp only [Std.ExtTreeSet.mem_insert, Std.LawfulEqCmp.compare_eq_iff_eq, Set.mem_insert_iff]
      grind
    · simp only [Std.ExtTreeSet.mem_insert, Std.LawfulEqCmp.compare_eq_iff_eq,
        Std.ExtTreeMap.getElem?_erase]
      grind
  · next hold =>
    rw [hmapped] at hold
    refine ⟨fun other => ?_, h.records⟩
    simp only [Set.mem_insert_iff]
    grind

/-- Several more owners. -/
theorem Noted.evictAll (h : Noted start owners state) (ids : List ServiceId) :
    Noted start ({id | id ∈ ids} ∪ owners) (state.evictAll ids) := by
  induction ids generalizing owners state with
  | nil => simpa [Eviction.evictAll] using h
  | cons id rest ih =>
    have hrest := ih (h.evict id)
    have howners : {other | other ∈ id :: rest} ∪ owners =
        {other | other ∈ rest} ∪ insert id owners := by
      ext other
      simp [or_assoc]
    rw [howners]
    exact hrest

/-- Evicting services tracks the same ports. -/
theorem tracked_evictAll (state : Eviction) (ids : List ServiceId) :
    (state.evictAll ids).allocator.tracked = state.allocator.tracked := by
  induction ids generalizing state with
  | nil => rfl
  | cons id rest ih =>
    refine (ih (state.evict id)).trans ?_
    unfold evict
    split <;> rfl

/-- The services with a number on one of the ports. -/
def ownersOn (start : Allocator) (portIds : List String) : Set ServiceId :=
  {id | ∃ portId ∈ portIds, ∃ number, start.Holds portId number id}

/-- What has happened once ports were dropped: their owners were gone through, and the ports are not
tracked any more. -/
structure Dropped (start : Allocator) (portIds : List String) (state : Eviction) : Prop where
  noted : Noted start (ownersOn start portIds) state
  tracked : ∀ portId : String, state.allocator.tracked[portId]? =
    if portId ∈ portIds then none else start.tracked[portId]?

/-- The owners on one more port. -/
theorem ownersOn_append (start : Allocator) (portIds : List String) (portId : String) :
    ownersOn start (portIds ++ [portId]) =
      {id | ∃ number, start.Holds portId number id} ∪ ownersOn start portIds := by
  ext id
  simp only [ownersOn, List.mem_append, List.mem_singleton, Set.mem_ofPred_eq, Set.mem_union]
  grind

/-- One more port. -/
theorem Dropped.drop (h : Dropped start portIds state) (portId : String) :
    Dropped start (portIds ++ [portId]) (state.drop portId) := by
  have hport := h.tracked portId
  unfold Eviction.drop
  cases htracked : state.allocator.tracked[portId]? with
  | none =>
    -- The port was dropped before, or it was not tracked at the start.
    rw [htracked] at hport
    have howners : {id | ∃ number, start.Holds portId number id} ⊆ ownersOn start portIds := by
      rintro id ⟨number, occupancy, hoccupancy, howner⟩
      split at hport
      · next hold => exact ⟨portId, hold, number, occupancy, hoccupancy, howner⟩
      · cases hport.trans hoccupancy
    refine ⟨?_, fun other => ?_⟩
    · rw [ownersOn_append, Set.union_eq_self_of_subset_left howners]
      exact h.noted
    · rw [h.tracked]
      grind
  | some occupancy =>
    rw [htracked] at hport
    obtain ⟨hnew, hoccupancy⟩ : portId ∉ portIds ∧ start.tracked[portId]? = some occupancy := by
      split at hport
      · cases hport
      · next hnew => exact ⟨hnew, hport.symm⟩
    have howners : {id | id ∈ occupancy.owners.values} =
        {id | ∃ number, start.Holds portId number id} := by
      ext id
      simp [mem_values_iff, Allocator.Holds, hoccupancy]
    have huntracked : Noted start (ownersOn start portIds) (state.untrack portId) :=
      ⟨h.noted.evicted, h.noted.records⟩
    constructor
    · rw [ownersOn_append, ← howners]
      exact huntracked.evictAll occupancy.owners.values
    · intro other
      rw [tracked_evictAll]
      simp only [untrack, Std.ExtTreeMap.getElem?_erase, Std.LawfulEqCmp.compare_eq_iff_eq,
        h.tracked]
      grind

/-- Several more ports. -/
theorem Dropped.dropAll (h : Dropped start portIds state) (more : List String) :
    Dropped start (portIds ++ more) (state.dropAll more) := by
  induction more generalizing portIds state with
  | nil => simpa [Eviction.dropAll] using h
  | cons portId rest ih =>
    have hrest := ih (h.drop portId)
    rw [List.append_assoc, List.singleton_append] at hrest
    exact hrest

end Eviction

namespace Allocator

/-- The tracked ports outside a list. -/
def lostBy (allocator : Allocator) (portIds : List String) : List String :=
  allocator.tracked.keys.filter fun portId => decide (portId ∉ portIds)

/-- Keep only the given ports: drop the others one after the other. -/
def setAvailableInPlace (allocator : Allocator) (portIds : List String) :
    List ServiceId × Allocator :=
  let state := Eviction.dropAll { allocator } (allocator.lostBy portIds)
  (state.evicted.toList, state.allocator)

/-- The services with a number on a lost port are the stranded ones. -/
theorem ownersOn_lostBy (allocator : Allocator) (portIds : List String) :
    Eviction.ownersOn allocator (allocator.lostBy portIds) =
      {id | id ∈ allocator.strandedBy portIds} := by
  ext id
  simp only [Eviction.ownersOn, lostBy, mem_strandedBy_iff, List.mem_filter,
    Std.ExtTreeMap.mem_keys, decide_eq_true_eq, Set.mem_ofPred_eq]
  constructor
  · rintro ⟨portId, ⟨-, hlost⟩, number, hholds⟩
    exact ⟨portId, number, hlost, hholds⟩
  · rintro ⟨portId, number, hlost, hholds⟩
    exact ⟨portId, ⟨hholds.tracked, hlost⟩, number, hholds⟩

/-- Dropping the ports one after the other comes to the same as dropping them at once. -/
theorem setAvailableInPlace_eq (allocator : Allocator) (portIds : List String) :
    allocator.setAvailableInPlace portIds = allocator.setAvailable portIds := by
  have hstart : Eviction.Dropped allocator [] { allocator } :=
    ⟨⟨fun id => by simp [Eviction.ownersOn], fun id => by simp⟩, fun portId => by simp⟩
  have hdropped := hstart.dropAll (allocator.lostBy portIds)
  rw [List.nil_append] at hdropped
  have hnoted := hdropped.noted.evicted
  rw [ownersOn_lostBy] at hnoted
  apply Prod.ext
  · refine eq_of_ascending Std.ExtTreeSet.ordered_toList ?_ fun id => ?_
    · exact Std.ExtTreeMap.ordered_keys.filter _
    · rw [mem_evicted_iff]
      exact Std.ExtTreeSet.mem_toList.trans (hnoted id)
  · refine ext_entries (fun id => ?_) fun portId => ?_
    · rw [records_setAvailable]
      refine (hdropped.noted.records id).trans ?_
      by_cases hmapped : id ∈ allocator.records
      · simp only [hnoted, hmapped, true_and, Set.mem_ofPred_eq]
      · rw [Std.ExtTreeMap.getElem?_eq_none hmapped, ite_self, ite_self]
    · rw [tracked_setAvailable]
      refine (hdropped.tracked portId).trans ?_
      simp only [lostBy, List.mem_filter, Std.ExtTreeMap.mem_keys, decide_eq_true_eq]
      grind

/-- What it means that exactly the listed ports are kept. A port outside the list is not tracked any
more. The evicted services are those with a number on such a port, each listed once and in ascending
order. They lose their records and all their numbers, and the other services lose nothing. -/
structure Evicts (before : Allocator) (portIds : List String) (evicted : List ServiceId)
    (after : Allocator) : Prop where
  tracked : ∀ portId : String, after.tracked[portId]? =
    if portId ∈ portIds then before.tracked[portId]? else none
  stranded : ∀ id, id ∈ evicted ↔
    ∃ portId number, portId ∉ portIds ∧ before.Holds portId number id
  ascending : evicted.Pairwise fun a b => compare a b = .lt
  mapped : ∀ id ∈ evicted, id ∈ before.records
  records : ∀ id : ServiceId, after.records[id]? =
    if id ∈ evicted then none else before.records[id]?
  holds : ∀ portId number id,
    after.Holds portId number id ↔ before.Holds portId number id ∧ id ∉ evicted
  bound : ∀ (id : ServiceId) (record : Mapping), after.records[id]? = some record →
    record.ports ≠ [] → record.portId ∈ portIds

variable {allocator : Allocator} {portIds : List String}

/-- The ports that are kept are listed. -/
theorem Evicts.listed {after : Allocator} {evicted : List ServiceId} {portId : String}
    (h : allocator.Evicts portIds evicted after) (hkept : portId ∈ after.tracked) :
    portId ∈ portIds := by
  rw [Std.ExtTreeMap.mem_iff_isSome_getElem?, h.tracked] at hkept
  by_contra hlost
  simp [hlost] at hkept

/-- Where the occupancy is exact, every stranded service has a record and is evicted. -/
theorem Exact.mem_evicted_iff (hexact : allocator.Exact) (id : ServiceId) :
    id ∈ (allocator.setAvailable portIds).1 ↔ id ∈ allocator.strandedBy portIds := by
  rw [Allocator.mem_evicted_iff, and_iff_right_iff_imp, mem_strandedBy_iff]
  rintro ⟨portId, number, -, hholds⟩
  obtain ⟨record, hrecord, -⟩ := (hexact portId number id).mp hholds
  exact mem_of_getElem?_eq_some hrecord

/-- Where the occupancy is exact, exactly the listed ports are kept. -/
theorem Exact.evicts (hexact : allocator.Exact) (portIds : List String) :
    allocator.Evicts portIds (allocator.setAvailable portIds).1
      (allocator.setAvailable portIds).2 := by
  refine ⟨allocator.tracked_setAvailable portIds, fun id => ?_, ?_, fun id hid => ?_, fun id => ?_,
    fun portId number id => ?_, fun id record hrecord hports => ?_⟩
  · rw [hexact.mem_evicted_iff, mem_strandedBy_iff]
  · exact Std.ExtTreeMap.ordered_keys.filter _
  · exact ((allocator.mem_evicted_iff portIds id).mp hid).1
  · rw [records_setAvailable]
    simp only [hexact.mem_evicted_iff]
  · rw [holds_setAvailable, hexact.mem_evicted_iff, and_comm, and_congr_right_iff]
    intro hholds
    constructor
    · intro hlisted
      obtain ⟨record, hrecord, rfl, -⟩ := (hexact portId number id).mp hholds
      exact hexact.not_mem_strandedBy hrecord hlisted
    · intro hkept
      by_contra hlost
      exact hkept ((mem_strandedBy_iff _ _ _).mpr ⟨portId, number, hlost, hholds⟩)
  · -- A service with numbers holds them on the port of its record.
    obtain ⟨port, hport⟩ := List.exists_mem_of_ne_nil _ hports
    have hholds := (hexact.setAvailable portIds record.portId port.number id).mpr
      ⟨record, hrecord, rfl, port, hport, rfl⟩
    exact ((holds_setAvailable _ _ _ _ _).mp hholds).1

end Allocator

end Balancer
