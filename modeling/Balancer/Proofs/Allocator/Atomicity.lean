import Mathlib
import Balancer.Proofs.Allocator.Resolution

/-!
# Mappings that fail

A mapping works on the bookkeeping in place. It adopts the port tried first if that is not tracked
yet, and starts a port that was made, and between these steps it calls the pool, which may refuse
either call. Performed step by step a mapping comes to the same as in one step, and a refusal finds
the bookkeeping as it was before the mapping.

Nothing is assumed about the pool: it may answer the two calls in any way.
-/

namespace Balancer

namespace Allocator

variable {π : Type} [PortPool π]

/-- Decide whether a service stays on the port tried first, and adopt the port if it is not tracked
yet. -/
def acceptInPlace (allocator : Allocator) (pool : π) (id : ServiceId) (ports : List TransportPort)
    (portId : String) : Except AllocatorError Bool × Allocator :=
  match PortPool.hasPort pool portId with
  | .error cause => (.error (.pool cause), allocator)
  | .ok false => (.ok false, allocator)
  | .ok true =>
    match allocator.tracked[portId]? with
    | some occupancy => (.ok (occupancy.fits ports (some id)), allocator)
    | none => (.ok true, allocator.trackOne portId)

/-- Make a port and start it with nothing on it. -/
def provisionInPlace (allocator : Allocator) (pool : π) :
    Except AllocatorError String × Allocator × π :=
  match PortPool.provision pool with
  | (.ok portId, pool) =>
    (.ok portId, { allocator with tracked := allocator.tracked.insert portId {} }, pool)
  | (.error cause, pool) =>
    (.error (if cause.isExhausted then .noSuitablePort else .pool cause), allocator, pool)

/-- Find a tracked port with room for the ports, or make one. -/
def searchInPlace (allocator : Allocator) (pool : π) (ports : List TransportPort)
    (skip : Option String) : Except AllocatorError String × Allocator × π :=
  match allocator.firstFit ports skip with
  | some portId => (.ok portId, allocator, pool)
  | none => allocator.provisionInPlace pool

/-- Find the port for a service. -/
def placeInPlace (allocator : Allocator) (pool : π) (id : ServiceId) (ports : List TransportPort)
    (preferred : Option String) : Except AllocatorError String × Allocator × π :=
  match allocator.candidate id preferred with
  | none => allocator.searchInPlace pool ports none
  | some portId =>
    match allocator.acceptInPlace pool id ports portId with
    | (.error error, allocator) => (.error error, allocator, pool)
    | (.ok true, allocator) => (.ok portId, allocator, pool)
    | (.ok false, allocator) => allocator.searchInPlace pool ports (some portId)

/-- Map a service step by step. The bookkeeping and the pool are answered as they stand at the end,
also where the mapping fails. -/
def mapInPlace (allocator : Allocator) (pool : π) (id : ServiceId) (ports : List TransportPort)
    (preferred : Option String) : Except AllocatorError String × Allocator × π :=
  match allocator.placeInPlace pool id ports preferred with
  | (.error error, allocator, pool) => (.error error, allocator, pool)
  | (.ok portId, allocator, pool) => (.ok portId, allocator.bind id ports portId, pool)

variable {allocator : Allocator} {pool rest : π} {id : ServiceId} {ports : List TransportPort}
  {preferred : Option String} {portId : String} {error : AllocatorError}

/-- On an untracked port every number is free. -/
theorem fits_of_untracked (hnew : allocator.tracked[portId]? = none) (owner : Option ServiceId) :
    (allocator.occupancy portId).fits ports owner = true := by
  rw [Occupancy.fits_iff, occupancy, hnew]
  intro port _ holder hholder
  simp at hholder

/-- Deciding in place decides the same, and it changes the bookkeeping at most by tracking a port on
which the service stays. -/
theorem acceptInPlace_cases (allocator : Allocator) (pool : π) (id : ServiceId)
    (ports : List TransportPort) (portId : String) :
    (∃ cause, allocator.accepts pool id ports portId = .error cause ∧
      allocator.acceptInPlace pool id ports portId = (.error (.pool cause), allocator)) ∨
    (allocator.accepts pool id ports portId = .ok false ∧
      allocator.acceptInPlace pool id ports portId = (.ok false, allocator)) ∨
    (∃ adopting, allocator.accepts pool id ports portId = .ok true ∧
      allocator.acceptInPlace pool id ports portId = (.ok true, adopting) ∧
      (adopting = allocator ∨ adopting = allocator.trackOne portId)) := by
  unfold accepts acceptInPlace
  cases PortPool.hasPort pool portId with
  | error cause => exact Or.inl ⟨cause, rfl, rfl⟩
  | ok present =>
    right
    cases present with
    | false => exact Or.inl ⟨rfl, rfl⟩
    | true =>
      simp only [Except.map, Bool.true_and]
      cases htracked : allocator.tracked[portId]? with
      | none =>
        rw [fits_of_untracked htracked]
        exact Or.inr ⟨_, rfl, rfl, Or.inr rfl⟩
      | some occupancy =>
        have hoccupancy : allocator.occupancy portId = occupancy := by
          rw [Allocator.occupancy, htracked, Option.getD_some]
        simp only [hoccupancy]
        cases occupancy.fits ports (some id) with
        | false => exact Or.inl ⟨rfl, rfl⟩
        | true => exact Or.inr ⟨_, rfl, rfl, Or.inl rfl⟩

/-- A mapping performed step by step comes to the same as in one step: it binds the service to the
same port, or it fails with the same error and leaves the bookkeeping as it was. -/
theorem mapInPlace_eq (allocator : Allocator) (pool : π) (id : ServiceId)
    (ports : List TransportPort) (preferred : Option String) :
    allocator.mapInPlace pool id ports preferred =
      match allocator.map pool id ports preferred with
      | (.ok (portId, mapped), rest) => (.ok portId, mapped, rest)
      | (.error error, rest) => (.error error, allocator, rest) := by
  -- The search comes to the same behind whatever port was tried first.
  have hsearch (skip : Option String)
      (hplace : allocator.place pool id ports preferred = allocator.search pool ports skip)
      (hstep : allocator.placeInPlace pool id ports preferred =
        allocator.searchInPlace pool ports skip) :
      allocator.mapInPlace pool id ports preferred =
        match allocator.map pool id ports preferred with
        | (.ok (portId, mapped), rest) => (.ok portId, mapped, rest)
        | (.error error, rest) => (.error error, allocator, rest) := by
    simp only [mapInPlace, map, hplace, hstep, search, searchInPlace]
    cases allocator.firstFit ports skip with
    | some portId => rfl
    | none =>
      simp only [provision, provisionInPlace]
      rcases PortPool.provision pool with ⟨cause | portId, rest⟩
      · rfl
      · rfl
  cases hcandidate : allocator.candidate id preferred with
  | none =>
    apply hsearch none
    · simp only [place, hcandidate]
    · simp only [placeInPlace, hcandidate]
  | some portId =>
    rcases allocator.acceptInPlace_cases pool id ports portId with
      ⟨cause, haccepts, hstep⟩ | ⟨haccepts, hstep⟩ | ⟨adopting, haccepts, hstep, hadopting⟩
    · simp only [mapInPlace, placeInPlace, map, place, hcandidate, haccepts, hstep]
    · apply hsearch (some portId)
      · simp only [place, hcandidate, haccepts]
      · simp only [placeInPlace, hcandidate, hstep]
    · have hbind : adopting.bind id ports portId = allocator.bind id ports portId := by
        rcases hadopting with rfl | rfl
        · rfl
        · exact bind_trackOne _ _ _ _
      simp only [mapInPlace, placeInPlace, map, place, hcandidate, haccepts, hstep, hbind]
      rfl

/-- Why a mapping is refused, with the pool afterwards: the pool cannot say whether it has the port
tried first, or it was asked for a port and is exhausted, or it failed to make one. -/
inductive Refuses (allocator : Allocator) (pool : π) (id : ServiceId) (preferred : Option String) :
    AllocatorError → π → Prop where
  | unanswered {portId : String} {cause : PoolError}
      (hcandidate : allocator.candidate id preferred = some portId)
      (hunknown : PortPool.hasPort pool portId = .error cause) :
      Refuses allocator pool id preferred (.pool cause) pool
  | exhausted {cause : PoolError} {rest : π}
      (hrefused : PortPool.provision pool = (.error cause, rest))
      (hexhausted : cause.isExhausted = true) :
      Refuses allocator pool id preferred .noSuitablePort rest
  | failed {cause : PoolError} {rest : π}
      (hrefused : PortPool.provision pool = (.error cause, rest))
      (hexhausted : cause.isExhausted = false) :
      Refuses allocator pool id preferred (.pool cause) rest

/-- A search is refused only where no port can be made. -/
theorem refuses_of_search {skip : Option String}
    (h : allocator.search pool ports skip = (.error error, rest)) :
    allocator.Refuses pool id preferred error rest := by
  unfold search at h
  split at h
  · cases h
  · unfold provision at h
    split at h
    · cases h
    · next cause made hrefused =>
      cases hexhausted : cause.isExhausted with
      | true =>
        rw [hexhausted] at h
        cases h
        exact .exhausted hrefused hexhausted
      | false =>
        rw [hexhausted] at h
        cases h
        exact .failed hrefused hexhausted

/-- A mapping is refused for one of the reasons there are. -/
theorem refuses_of_map (h : allocator.map pool id ports preferred = (.error error, rest)) :
    allocator.Refuses pool id preferred error rest := by
  have hplace : allocator.place pool id ports preferred = (.error error, rest) := by
    unfold map at h
    split at h
    · next heq =>
      cases h
      exact heq
    · cases h
  unfold place at hplace
  split at hplace
  · exact refuses_of_search hplace
  · next portId hcandidate =>
    split at hplace
    · next cause haccepts =>
      cases hplace
      unfold accepts at haccepts
      cases hunknown : PortPool.hasPort pool portId with
      | error refused =>
        rw [hunknown] at haccepts
        cases haccepts
        exact .unanswered hcandidate hunknown
      | ok present =>
        rw [hunknown] at haccepts
        cases haccepts
    · cases hplace
    · exact refuses_of_search hplace

/-- A pool that was asked for a port and refused was asked once more than before. -/
theorem asked_of_refused {metered after : Metered π} {cause : PoolError}
    (h : PortPool.provision metered = (.error cause, after)) :
    (PortPool.provision metered.pool).1 = .error cause ∧ after.asked = metered.asked + 1 :=
  ⟨congrArg Prod.fst h, (congrArg (fun refused => refused.2.asked) h).symm⟩

/-- A mapping that fails changes nothing, whatever the pool answers: performed step by step it ends
with the bookkeeping as it was. It fails for lack of a suitable port exactly if the pool was asked
for a port and is exhausted, and otherwise with the pool's own error, be it about the port tried
first or about the port to be made. -/
theorem failed_map_changes_nothing {metered after : Metered π} {kept : Allocator}
    (h : allocator.mapInPlace metered id ports preferred = (.error error, kept, after)) :
    kept = allocator ∧ allocator.map metered id ports preferred = (.error error, after) ∧
      (error = .noSuitablePort ↔ after.asked = metered.asked + 1 ∧
        ∃ cause, (PortPool.provision metered.pool).1 = .error cause ∧ cause.isExhausted = true) ∧
      (error ≠ .noSuitablePort → ∃ cause, error = .pool cause ∧
        (after.asked = metered.asked ∧ (∃ portId, allocator.candidate id preferred = some portId ∧
            PortPool.hasPort metered.pool portId = .error cause) ∨
          after.asked = metered.asked + 1 ∧
            (PortPool.provision metered.pool).1 = .error cause)) := by
  have hmap : kept = allocator ∧
      allocator.map metered id ports preferred = (.error error, after) := by
    rw [mapInPlace_eq] at h
    split at h
    · cases h
    · next heq =>
      cases h
      exact ⟨rfl, heq⟩
  refine ⟨hmap.1, hmap.2, ?_⟩
  cases refuses_of_map hmap.2 with
  | unanswered hcandidate hunknown =>
    refine ⟨⟨nofun, fun hasked => absurd hasked.1 (by omega)⟩, fun _ => ⟨_, rfl, Or.inl ?_⟩⟩
    exact ⟨rfl, _, hcandidate, hunknown⟩
  | @exhausted cause _ hrefused hexhausted =>
    obtain ⟨hanswer, hasked⟩ := asked_of_refused hrefused
    refine ⟨⟨fun _ => ⟨hasked, cause, hanswer, hexhausted⟩, fun _ => rfl⟩, fun hother => ?_⟩
    exact absurd rfl hother
  | failed hrefused hexhausted =>
    obtain ⟨hanswer, hasked⟩ := asked_of_refused hrefused
    refine ⟨⟨nofun, ?_⟩, fun _ => ⟨_, rfl, Or.inr ⟨hasked, hanswer⟩⟩⟩
    rintro ⟨-, cause, hcause, hexhausted'⟩
    cases hanswer.symm.trans hcause
    rw [hexhausted] at hexhausted'
    cases hexhausted'

end Allocator

/-- A pool with fixed answers to the two calls that a mapping makes. -/
structure Scripted where
  existence : Except PoolError Bool
  making : Except PoolError String

instance : PortPool Scripted where
  provision script := (script.making, script)
  hasPort script _ := script.existence
  available _ := .ok []
  clean script _ := .ok script
  external _ portId := .error (.unknownPort portId)
  internal _ portId := .error (.unknownPort portId)

namespace Allocation

/-- The third service of the crowded state asks for the contested number and is refused: the pool
cannot say whether it has the port tried first, or it has it and is exhausted, or it goes out of
reach between the two calls. -/
theorem failed_map_changes_nothing_refused :
    ∃ unanswered exhausted interrupted,
      crowded.allocator.mapInPlace
          (Metered.mk (Scripted.mk (.error .offline) (.error (.capacityReached 2))) 0)
          ⟨"ns", "web"⟩ [⟨.tcp, 53⟩] none =
        (.error (.pool .offline), crowded.allocator, unanswered) ∧ unanswered.asked = 0 ∧
      crowded.allocator.mapInPlace
          (Metered.mk (Scripted.mk (.ok true) (.error (.capacityReached 2))) 0)
          ⟨"ns", "web"⟩ [⟨.tcp, 53⟩] none =
        (.error .noSuitablePort, crowded.allocator, exhausted) ∧ exhausted.asked = 1 ∧
      crowded.allocator.mapInPlace (Metered.mk (Scripted.mk (.ok true) (.error .offline)) 0)
          ⟨"ns", "web"⟩ [⟨.tcp, 53⟩] none =
        (.error (.pool .offline), crowded.allocator, interrupted) ∧ interrupted.asked = 1 := by
  have hkept (script : Scripted) (error : AllocatorError)
      (herror : (crowded.allocator.mapInPlace (Metered.mk script 0) ⟨"ns", "web"⟩ [⟨.tcp, 53⟩]
        none).1 = .error error) :
      crowded.allocator.mapInPlace (Metered.mk script 0) ⟨"ns", "web"⟩ [⟨.tcp, 53⟩] none =
        (.error error, crowded.allocator, (crowded.allocator.mapInPlace (Metered.mk script 0)
          ⟨"ns", "web"⟩ [⟨.tcp, 53⟩] none).2.2) := by
    have hsame := (Allocator.failed_map_changes_nothing (Prod.ext herror rfl)).1
    exact Prod.ext herror (Prod.ext hsame rfl)
  refine ⟨_, _, _, hkept _ _ ?_, ?_, hkept _ _ ?_, ?_, hkept _ _ ?_, ?_⟩
  all_goals decide +kernel

end Allocation

end Balancer
