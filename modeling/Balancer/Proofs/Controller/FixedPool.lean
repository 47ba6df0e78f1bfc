import Mathlib
import Balancer.Proofs.Allocator.Resolution
import Balancer.Proofs.Controller.Barrier
import Balancer.Proofs.Pool.Availability
import Balancer.Proofs.Worker.Calls

/-!
# Controllers over a fixed pool

A fixed pool offers its addresses forever, and a controller over it tracks exactly these: services
are placed on tracked ports only, and a cleanup and a look for vanished ports track again what they
dropped. Nothing is assumed of the cluster, of the agents and of the order in which things happen.

So a service gets a port unless every address is taken for it, one requested number at least being
held there by another service.
-/

namespace Balancer

/-- A port is not open to a service exactly if another one holds a requested number there. -/
theorem Allocator.not_openTo_iff (allocator : Allocator) (id : ServiceId)
    (ports : List TransportPort) (portId : String) :
    ¬allocator.OpenTo id ports portId ↔
      ∃ port ∈ ports, ∃ holder ≠ id, allocator.Holds portId port.number holder := by
  simp only [OpenTo, not_forall, exists_prop, ne_eq, and_comm]

namespace Allocation

/-- An allocator over a fixed pool that tracks exactly the ports of the pool. -/
structure Complete (allocation : Allocation) (pool : FixedPool) : Prop where
  sound : allocation.Sound
  fixed : allocation.pool = .fixed pool
  tracked : ∀ portId, portId ∈ allocation.allocator.tracked ↔ portId ∈ pool.ports

variable {allocation : Allocation} {pool : FixedPool}

/-- Whatever a call does, an allocator over a fixed pool goes on drawing on it. -/
theorem pool_after_of_fixed (hpool : allocation.pool = .fixed pool) (call : AllocatorCall) :
    (allocation.after call).pool = .fixed pool := by
  cases call with
  | map id ports preferred =>
    have hmoved := allocation.allocator.pool_map allocation.pool id ports preferred
    rw [pool_after_map]
    rw [hpool] at hmoved ⊢
    exact hmoved.elim (fun h => h) fun h => h
  | changePool change =>
    simp only [after, hpool]
    exact Pool.fixed_change pool change
  | _ => exact hpool

/-- The port that a service is placed on was tracked, since a fixed pool makes none. -/
theorem Complete.mem_ports_of_placed (h : allocation.Complete pool) {id : ServiceId}
    {ports : List TransportPort} {preferred : Option String} {portId : String}
    {prepared : Allocator} {rest : Pool}
    (hplaced : allocation.allocator.Placed allocation.pool id ports preferred portId prepared
      rest) : portId ∈ pool.ports := by
  rw [h.fixed] at hplaced
  cases hplaced with
  | kept _ hpresent _ =>
    have honline : (Pool.fixed pool).Online := trivial
    exact honline.offers_iff.mp hpresent
  | found skip hfirst =>
    obtain ⟨-, occupancy, hoccupancy, -⟩ := Allocator.firstFit_eq_some hfirst
    exact (h.tracked portId).mp (mem_of_getElem?_eq_some hoccupancy)
  | made hmade => cases hmade

/-- Mapping and unmapping services tracks the same ports. -/
theorem Complete.after (h : allocation.Complete pool) {call : AllocatorCall}
    (hcall : call.ConcernsService) : (allocation.after call).Complete pool := by
  cases call with
  | map id ports preferred =>
    refine ⟨h.sound.after trivial, pool_after_of_fixed h.fixed _, fun portId => ?_⟩
    rcases allocation.allocator.map_cases allocation.pool id ports preferred with
      ⟨bound, prepared, rest, hplaced, heq⟩ | ⟨error, rest, -, heq⟩
    · simp only [Allocation.after, heq]
      rw [hplaced.mem_tracked, h.tracked]
      exact or_iff_right_of_imp fun hbound => hbound ▸ h.mem_ports_of_placed hplaced
    · simp only [Allocation.after, heq]
      exact h.tracked portId
  | unmap id =>
    exact ⟨h.sound.after trivial, h.fixed,
      fun portId => (Allocator.mem_tracked_unmap _ _ _).trans (h.tracked portId)⟩
  | _ => exact hcall.elim

/-- Tracking what the pool offers completes an allocator that tracks nothing else. -/
theorem complete_track (hsound : allocation.Sound) (hpool : allocation.pool = .fixed pool)
    (htracked : ∀ portId ∈ allocation.allocator.tracked, portId ∈ pool.ports) :
    (allocation.after (.track pool.ports)).Complete pool := by
  refine ⟨hsound.after fun portId hportId => Or.inr ?_, hpool, fun portId => ?_⟩
  · rwa [hpool]
  · exact (Allocator.mem_tracked_track _ _ _).trans (or_iff_left_of_imp (htracked portId))

/-- Dropping ports and tracking again what the pool offers drops no port of a fixed pool. -/
theorem Complete.retrack (h : allocation.Complete pool) (call : AllocatorCall)
    (hcall : allocation.Permits call)
    (hdrops : ∀ portId ∈ (allocation.after call).allocator.tracked,
      portId ∈ allocation.allocator.tracked) :
    ((allocation.after call).after (.track pool.ports)).Complete pool :=
  complete_track (h.sound.after hcall) (pool_after_of_fixed h.fixed call)
    fun portId hportId => (h.tracked portId).mp (hdrops portId hportId)

/-- Where everything is tracked, no address is open to a service that leaves the port tried first
and finds no other one. -/
theorem Complete.not_openTo (h : allocation.Complete pool) {id : ServiceId}
    {ports : List TransportPort} {preferred : Option String}
    (hleaves : ∀ portId, ¬allocation.allocator.Keeps allocation.pool id ports preferred portId)
    (hnone : allocation.allocator.alternatives id ports preferred = ∅) {portId : String}
    (hportId : portId ∈ pool.ports) : ¬allocation.allocator.OpenTo id ports portId := by
  intro hopen
  by_cases hcandidate : allocation.allocator.candidate id preferred = some portId
  · have honline : (Pool.fixed pool).Online := trivial
    have hpresent : PortPool.hasPort allocation.pool portId = .ok true := by
      rw [h.fixed]
      exact honline.offers_iff.mpr hportId
    exact hleaves portId ⟨hcandidate, hpresent, hopen⟩
  · have hother : portId ∈ allocation.allocator.alternatives id ports preferred :=
      ⟨(h.tracked portId).mpr hportId, Ne.symm hcandidate, hopen⟩
    rw [hnone] at hother
    exact hother

/-- A mapping succeeds on a port of the pool that is open to the service, and it fails for lack of a
suitable port if no port of the pool is. -/
theorem Complete.map_cases (h : allocation.Complete pool) (id : ServiceId)
    (ports : List TransportPort) (preferred : Option String) :
    (∃ portId mapped, portId ∈ pool.ports ∧ allocation.allocator.OpenTo id ports portId ∧
      (allocation.allocator.map allocation.pool id ports preferred).1 = .ok (portId, mapped)) ∨
    ((∀ portId ∈ pool.ports, ¬allocation.allocator.OpenTo id ports portId) ∧
      (allocation.allocator.map allocation.pool id ports preferred).1 =
        .error .noSuitablePort) := by
  have honline : (Pool.fixed pool).Online := trivial
  have hexact := h.sound.exact
  rw [Allocator.map_eq_place]
  rcases allocation.allocator.place_cases allocation.pool id ports preferred with
    ⟨portId, hkeeps, heq⟩ | ⟨portId, cause, hunknown, -⟩ | ⟨hleaves, heq⟩
  · refine Or.inl ⟨portId, _, ?_, hkeeps.openTo, by rw [heq]; rfl⟩
    have hpresent := hkeeps.present
    rw [h.fixed] at hpresent
    exact honline.offers_iff.mp hpresent
  · -- A fixed pool can always say whether it has a port.
    rw [h.fixed] at hunknown
    rcases honline.hasPort_cases portId with hpresent | habsent
    · cases hunknown.symm.trans hpresent
    · cases hunknown.symm.trans habsent
  · rw [heq, Allocator.search]
    cases hfirst : allocation.allocator.firstFit ports
        (allocation.allocator.candidate id preferred) with
    | some portId =>
      have hleast := Allocator.isLeast_of_firstFit hfirst
      rw [hexact.vacant_eq] at hleast
      exact Or.inl ⟨portId, _, (h.tracked portId).mp hleast.1.1, hleast.1.2.2, rfl⟩
    | none =>
      have hnone := Allocator.vacant_eq_empty_of_firstFit hfirst
      rw [hexact.vacant_eq] at hnone
      refine Or.inr ⟨fun portId hportId => h.not_openTo hleaves hnone hportId, ?_⟩
      rw [h.fixed]
      rfl

/-- A service is refused a port exactly if no port of the pool is open to it, and then for lack of a
suitable port. -/
theorem Complete.refused_iff (h : allocation.Complete pool) (id : ServiceId)
    (ports : List TransportPort) (preferred : Option String) :
    ((∃ error, (allocation.allocator.map allocation.pool id ports preferred).1 = .error error) ↔
      ∀ portId ∈ pool.ports, ¬allocation.allocator.OpenTo id ports portId) ∧
    ∀ error, (allocation.allocator.map allocation.pool id ports preferred).1 = .error error →
      error = .noSuitablePort := by
  rcases h.map_cases id ports preferred with ⟨portId, mapped, hportId, hopen, heq⟩ | ⟨hclosed, heq⟩
  · rw [heq]
    refine ⟨⟨?_, fun hclosed => absurd hopen (hclosed portId hportId)⟩, nofun⟩
    rintro ⟨error, herror⟩
    cases herror
  · rw [heq]
    refine ⟨⟨fun _ => hclosed, fun _ => ⟨_, rfl⟩⟩, fun error herror => ?_⟩
    cases herror
    rfl

end Allocation

namespace Worker

variable {worker : Worker} {pool : FixedPool}

/-- A worker over a fixed pool that tracks exactly the ports of the pool goes on doing so, whatever
job it runs. -/
theorem complete_run (h : worker.allocation.Complete pool) (job : Job) :
    (worker.run job).1.allocation.Complete pool := by
  have hpool : worker.pool = .fixed pool := h.fixed
  have hports : worker.pool.ports = pool.ports := congrArg Pool.ports hpool
  by_cases hcleanup : job = .cleanup
  · subst hcleanup
    have hclean : PortPool.clean worker.pool worker.allocator.usedPorts = .ok worker.pool := by
      rw [hpool]
      rfl
    have hupkeep := worker.upkeep .cleanup trivial
    generalize worker.run .cleanup = outcome at hupkeep ⊢
    cases hupkeep with
    | barred => exact h
    | refused _ hrefused => cases hclean.symm.trans hrefused
    | cleaned _ hcleaned =>
      cases hclean.symm.trans hcleaned
      rw [hports]
      exact h.retrack .prune trivial fun portId hportId =>
        Std.ExtTreeMap.mem_of_mem_filter hportId
  by_cases hsearch : job = .syncAvailablePorts
  · subst hsearch
    have hupkeep := worker.upkeep .syncAvailablePorts trivial
    generalize worker.run .syncAvailablePorts = outcome at hupkeep ⊢
    cases hupkeep with
    | unlisted => exact h
    | adjusted =>
      rw [hports]
      exact h.retrack (.setAvailable pool.ports) trivial fun portId hportId =>
        Std.ExtTreeMap.mem_of_mem_filter hportId
  rcases (worker.consults_run hcleanup hsearch).allocation with heq | ⟨call, hcall, heq⟩
  · rwa [heq]
  · rw [heq]
    exact h.after hcall

/-- Executing a job keeps the ports of a fixed pool tracked. -/
theorem complete_execute (h : worker.allocation.Complete pool) (job : Job) :
    (worker.execute job).allocation.Complete pool := by
  obtain ⟨jobs, published, history, heq, -⟩ := worker.execute_eq job
  rw [heq]
  exact complete_run h job

/-- A step keeps the ports of a fixed pool tracked. -/
theorem complete_step (h : worker.allocation.Complete pool) :
    (worker.step.getD worker).allocation.Complete pool := by
  cases hstep : worker.step with
  | none => exact h
  | some next =>
    obtain ⟨job, rest, -, rfl⟩ := step_eq_some hstep
    have hhanded : (worker.withJobs rest).allocation.Complete pool := h
    exact complete_execute hhanded job

/-- Whatever happens, the ports of a fixed pool stay tracked. -/
theorem complete_after (h : worker.allocation.Complete pool) (happening : Happening) :
    (worker.after happening).allocation.Complete pool := by
  cases happening with
  | delete id =>
    simp only [after]
    split <;> exact h
  | turn => exact complete_step h
  | execute job => exact complete_execute h job
  | changePool change =>
    have hpermits : worker.allocation.Permits (.changePool change) := trivial
    exact ⟨h.sound.after hpermits, Allocation.pool_after_of_fixed h.fixed (.changePool change),
      h.tracked⟩
  | _ => exact h

end Worker

namespace Controller

variable {controller : Controller} {pool : FixedPool}

/-- A new controller over a fixed pool tracks exactly its ports. -/
theorem complete_create (config : Config) (cluster : Cluster) (pool : FixedPool)
    (pusher : Pusher) :
    (create config cluster (.fixed pool) pusher).worker.allocation.Complete pool := by
  have hempty : Allocation.Sound { pool := .fixed pool } :=
    (Allocation.Reachable.start (.fixed pool)).sound
  exact Allocation.complete_track hempty rfl fun portId hportId =>
    absurd hportId Std.ExtTreeMap.not_mem_empty

/-- Whatever happens to a controller, the ports of a fixed pool stay tracked. -/
theorem complete_after (h : controller.worker.allocation.Complete pool)
    (occurrence : Occurrence) :
    (controller.after occurrence).worker.allocation.Complete pool := by
  cases occurrence with
  | around happening => exact Worker.complete_after h happening
  | start =>
    simp only [after, startTimer]
    split <;> exact h
  | work => exact Worker.complete_step h
  | reach moment =>
    simp only [after, Controller.reach]
    split <;> exact h
  | _ => exact h

/-- Throughout every history of a new controller over a fixed pool the ports of the pool are
tracked. -/
theorem complete_through (config : Config) (cluster : Cluster) (pool : FixedPool)
    (pusher : Pusher) (history : List Occurrence) :
    ((create config cluster (.fixed pool) pusher).through history).worker.allocation.Complete
      pool := by
  induction history with
  | nil => exact complete_create config cluster pool pusher
  | cons occurrence earlier ih => exact complete_after ih occurrence

/-- A fixed pool never loses an address. Throughout every history of a new controller the ports that
its worker tracks are exactly the written addresses of the pool, and a service is refused a port if
and only if on every address another service holds one of the requested numbers. The refusal is then
that there is no suitable port. -/
theorem fixed_pool_kept (config : Config) (cluster : Cluster) (pool : FixedPool) (pusher : Pusher)
    (history : List Occurrence) :
    let worker := ((create config cluster (.fixed pool) pusher).through history).worker
    worker.pool = .fixed pool ∧
    (∀ portId, portId ∈ worker.allocator.tracked ↔
      ∃ address ∈ pool.addresses, address.text = portId) ∧
    ∀ id ports preferred,
      ((∃ error, (worker.allocator.map worker.pool id ports preferred).1 = .error error) ↔
        ∀ address ∈ pool.addresses, ∃ port ∈ ports, ∃ holder ≠ id,
          worker.allocator.Holds address.text port.number holder) ∧
      ∀ error, (worker.allocator.map worker.pool id ports preferred).1 = .error error →
        error = .noSuitablePort := by
  intro worker
  have h : worker.allocation.Complete pool := complete_through config cluster pool pusher history
  refine ⟨h.fixed, fun portId => (h.tracked portId).trans List.mem_map,
    fun id ports preferred => ?_⟩
  obtain ⟨hrefused, hreason⟩ := h.refused_iff id ports preferred
  refine ⟨hrefused.trans ?_, hreason⟩
  rw [FixedPool.ports, List.forall_mem_map]
  exact forall₂_congr fun address _ => worker.allocator.not_openTo_iff id ports address.text

end Controller

end Balancer
