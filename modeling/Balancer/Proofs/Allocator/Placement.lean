import Mathlib
import Balancer.Allocator.Lemmas

/-!
# Where the allocator places a service

A service is placed on the port tried first, on a tracked port with room, or on a port made for it.
Whichever it is, no other service holds a number there that the service asks for, so that binding
the service takes nothing away from others.
-/

namespace Balancer

namespace Occupancy

/-- Ports fit when every holder of a requested number is the given owner. -/
theorem fits_iff (occupancy : Occupancy) (ports : List TransportPort) (owner : Option ServiceId) :
    occupancy.fits ports owner = true ↔
      ∀ port ∈ ports, ∀ holder, occupancy.owners[port.number]? = some holder →
        some holder = owner := by
  simp only [fits, List.all_eq_true]
  constructor
  · intro h port hport holder hholder
    have hfits := h port hport
    rw [hholder] at hfits
    simpa using hfits
  · intro h port hport
    cases hholder : occupancy.owners[port.number]? with
    | none => rfl
    | some holder => simpa using h port hport holder hholder

end Occupancy

namespace Allocator

variable {π : Type} [PortPool π]

/-- The first fit is a tracked port with room, other than the one to skip. -/
theorem firstFit_eq_some {allocator : Allocator} {ports : List TransportPort}
    {skip : Option String} {portId : String} (h : allocator.firstFit ports skip = some portId) :
    some portId ≠ skip ∧ ∃ occupancy, allocator.tracked[portId]? = some occupancy ∧
      occupancy.fits ports none = true := by
  simp only [firstFit, Option.map_eq_some_iff] at h
  obtain ⟨⟨found, occupancy⟩, hfind, rfl⟩ := h
  have hroom := List.find?_some hfind
  simp only [Bool.and_eq_true, decide_eq_true_eq] at hroom
  exact ⟨hroom.1, occupancy,
    Std.ExtTreeMap.mem_toList_iff_getElem?_eq_some.mp (List.mem_of_find?_eq_some hfind), hroom.2⟩

/-- Binding a service tracks its port besides those tracked before. -/
theorem mem_tracked_bind (allocator : Allocator) (id : ServiceId) (ports : List TransportPort)
    (portId other : String) :
    other ∈ (allocator.bind id ports portId).tracked ↔
      other = portId ∨ other ∈ allocator.tracked := by
  simp only [bind, Std.ExtTreeMap.mem_insert, Std.LawfulEqOrd.compare_eq_iff_eq]
  rw [eq_comm]
  split
  · rw [mem_tracked_unmap]
  · rfl

/-- The ways in which a port is found for a service, with the bookkeeping and the pool in which the
service is bound to it. -/
inductive Placed (allocator : Allocator) (pool : π) (id : ServiceId) (ports : List TransportPort)
    (preferred : Option String) : String → Allocator → π → Prop where
  | kept {portId : String} (hcandidate : allocator.candidate id preferred = some portId)
      (hpresent : PortPool.hasPort pool portId = .ok true)
      (hfits : (allocator.occupancy portId).fits ports (some id) = true) :
      Placed allocator pool id ports preferred portId allocator pool
  | found {portId : String} (skip : Option String)
      (hfirst : allocator.firstFit ports skip = some portId) :
      Placed allocator pool id ports preferred portId allocator pool
  | made {portId : String} {rest : π} (hmade : PortPool.provision pool = (.ok portId, rest)) :
      Placed allocator pool id ports preferred portId
        { allocator with tracked := allocator.tracked.insert portId {} } rest

/-- Searching finds a tracked port, makes one, or fails with the pool's answer. -/
theorem search_cases (allocator : Allocator) (pool : π) (ports : List TransportPort)
    (skip : Option String) :
    (∃ portId, allocator.firstFit ports skip = some portId ∧
      allocator.search pool ports skip = (.ok (.present portId), pool)) ∨
    (∃ portId rest, PortPool.provision pool = (.ok portId, rest) ∧
      allocator.search pool ports skip = (.ok (.made portId), rest)) ∨
    (∃ error, allocator.search pool ports skip = (.error error, (PortPool.provision pool).2)) := by
  unfold search
  cases hfirst : allocator.firstFit ports skip with
  | some portId => exact Or.inl ⟨portId, rfl, rfl⟩
  | none =>
    right
    rcases hprovision : PortPool.provision pool with ⟨answer, rest⟩
    cases answer with
    | ok portId => exact Or.inl ⟨portId, rest, rfl, by simp only [provision, hprovision]⟩
    | error cause =>
      refine Or.inr ⟨if cause.isExhausted then .noSuitablePort else .pool cause, ?_⟩
      simp only [provision, hprovision]

/-- Mapping a service binds it to a port found for it, or fails and leaves the bookkeeping alone. A
failure moves the pool only if a port was asked for. -/
theorem map_cases (allocator : Allocator) (pool : π) (id : ServiceId)
    (ports : List TransportPort) (preferred : Option String) :
    (∃ portId prepared rest, allocator.Placed pool id ports preferred portId prepared rest ∧
      allocator.map pool id ports preferred = (.ok (portId, prepared.bind id ports portId), rest)) ∨
    (∃ error rest, (rest = pool ∨ rest = (PortPool.provision pool).2) ∧
      allocator.map pool id ports preferred = (.error error, rest)) := by
  -- Both ways into the search end alike, whatever port was tried first.
  have hsearch (skip : Option String)
      (hplace : allocator.place pool id ports preferred = allocator.search pool ports skip) :
      (∃ portId prepared rest, allocator.Placed pool id ports preferred portId prepared rest ∧
        allocator.map pool id ports preferred =
          (.ok (portId, prepared.bind id ports portId), rest)) ∨
      (∃ error rest, (rest = pool ∨ rest = (PortPool.provision pool).2) ∧
        allocator.map pool id ports preferred = (.error error, rest)) := by
    rcases allocator.search_cases pool ports skip with
      ⟨portId, hfirst, heq⟩ | ⟨portId, rest, hmade, heq⟩ | ⟨error, heq⟩
    · refine Or.inl ⟨portId, allocator, pool, .found skip hfirst, ?_⟩
      simp only [map, hplace, heq]
      rfl
    · refine Or.inl ⟨portId, _, rest, .made hmade, ?_⟩
      simp only [map, hplace, heq]
      rfl
    · refine Or.inr ⟨error, _, Or.inr rfl, ?_⟩
      simp only [map, hplace, heq]
  cases hcandidate : allocator.candidate id preferred with
  | none => exact hsearch none (by simp only [place, hcandidate])
  | some portId =>
    cases haccepts : allocator.accepts pool id ports portId with
    | error cause =>
      refine Or.inr ⟨.pool cause, pool, Or.inl rfl, ?_⟩
      simp only [map, place, hcandidate, haccepts]
    | ok accepted =>
      cases accepted with
      | false => exact hsearch (some portId) (by simp only [place, hcandidate, haccepts])
      | true =>
        have hboth : PortPool.hasPort pool portId = .ok true ∧
            (allocator.occupancy portId).fits ports (some id) = true := by
          unfold accepts at haccepts
          cases hpresent : PortPool.hasPort pool portId with
          | error cause =>
            rw [hpresent] at haccepts
            cases haccepts
          | ok present =>
            rw [hpresent] at haccepts
            have hand := Except.ok.inj haccepts
            simp only [Bool.and_eq_true] at hand
            exact ⟨by rw [hand.1], hand.2⟩
        refine Or.inl ⟨portId, allocator, pool, .kept hcandidate hboth.1 hboth.2, ?_⟩
        simp only [map, place, hcandidate, haccepts]
        rfl

/-- A successful mapping binds the service to a port found for it. -/
theorem placed_of_map_eq_ok {allocator mapped : Allocator} {pool rest : π} {id : ServiceId}
    {ports : List TransportPort} {preferred : Option String} {portId : String}
    (h : allocator.map pool id ports preferred = (.ok (portId, mapped), rest)) :
    ∃ prepared, allocator.Placed pool id ports preferred portId prepared rest ∧
      mapped = prepared.bind id ports portId := by
  rcases allocator.map_cases pool id ports preferred with
    ⟨portId', prepared, rest', hplaced, heq⟩ | ⟨error, rest', -, heq⟩
  · rw [heq] at h
    cases h
    exact ⟨prepared, hplaced, rfl⟩
  · rw [heq] at h
    cases h

/-- Mapping moves the pool at most by asking it for a port. -/
theorem pool_map (allocator : Allocator) (pool : π) (id : ServiceId) (ports : List TransportPort)
    (preferred : Option String) :
    (allocator.map pool id ports preferred).2 = pool ∨
      (allocator.map pool id ports preferred).2 = (PortPool.provision pool).2 := by
  rcases allocator.map_cases pool id ports preferred with
    ⟨portId, prepared, rest, hplaced, heq⟩ | ⟨error, rest, hrest, heq⟩
  · rw [heq]
    cases hplaced with
    | kept => exact Or.inl rfl
    | found => exact Or.inl rfl
    | made hmade => exact Or.inr (by rw [hmade])
  · rw [heq]
    exact hrest

namespace Placed

variable {allocator prepared : Allocator} {pool rest : π} {id : ServiceId}
  {ports : List TransportPort} {preferred : Option String} {portId : String}

/-- Finding a port changes no record. -/
theorem records_eq (h : allocator.Placed pool id ports preferred portId prepared rest) :
    prepared.records = allocator.records := by
  cases h <;> rfl

/-- On the port found for a service no other service holds a number that it asks for. -/
theorem holder_eq (h : allocator.Placed pool id ports preferred portId prepared rest)
    (port : TransportPort) (hport : port ∈ ports) (holder : ServiceId)
    (hholder : (prepared.occupancy portId).owners[port.number]? = some holder) : holder = id := by
  cases h with
  | kept _ _ hfits =>
    exact Option.some.inj ((Occupancy.fits_iff _ _ _).mp hfits port hport holder hholder)
  | found skip hfirst =>
    obtain ⟨-, occupancy, htracked, hfits⟩ := firstFit_eq_some hfirst
    rw [Allocator.occupancy, htracked] at hholder
    cases (Occupancy.fits_iff _ _ _).mp hfits port hport holder hholder
  | made =>
    simp [Allocator.occupancy] at hholder

/-- Besides the port found for it, binding the service tracks the ports tracked before. -/
theorem mem_tracked (h : allocator.Placed pool id ports preferred portId prepared rest)
    (other : String) :
    other ∈ (prepared.bind id ports portId).tracked ↔
      other = portId ∨ other ∈ allocator.tracked := by
  rw [mem_tracked_bind]
  cases h with
  | kept => rfl
  | found => rfl
  | made =>
    simp only [Std.ExtTreeMap.mem_insert, Std.LawfulEqOrd.compare_eq_iff_eq]
    rw [eq_comm (a := portId), ← or_assoc, or_self]

end Placed

end Allocator

end Balancer
