import Mathlib
import Balancer.Proofs.Allocator.History
import Balancer.Proofs.Worker.History

/-!
# The worker's use of its allocator

Jobs call the allocator only as callers may, and they track only ports that the pool has listed. So
the allocator of a worker and its pool are always in a state that calls lead to, and whatever holds
of all such states holds throughout every history of the worker.
-/

namespace Balancer

namespace Allocation

variable {allocation : Allocation}

/-- The pool of a state that calls lead to has a history of changes. -/
theorem Reachable.pool (h : allocation.Reachable) : allocation.pool.Reachable := by
  induction h with
  | start hpool => exact hpool
  | @call allocation call _ _ ih =>
    cases call with
    | map id ports preferred =>
      have hmoved := allocation.allocator.pool_map allocation.pool id ports preferred
      rw [pool_after_map]
      rcases hmoved with heq | heq
      · rwa [heq]
      · rw [heq]
        exact ih.change .provision
    | changePool change => exact ih.change change
    | _ => exact ih

/-- A state in which the ports on offer have been tracked is one that calls lead to. -/
theorem Reachable.track_available (h : allocation.Reachable) {portIds : List String}
    (havailable : PortPool.available allocation.pool = .ok portIds) :
    (allocation.after (.track portIds)).Reachable := by
  refine .call _ h fun portId hportId => Or.inr ?_
  rwa [← Pool.ports_of_available havailable]

end Allocation

namespace Worker

/-- The allocator of a worker together with the pool that it draws on. -/
def allocation (worker : Worker) : Allocation :=
  { allocator := worker.allocator, pool := worker.pool }

/-- The books of a worker are in order: calls have led the allocator and the pool to their state,
and the cache follows the store. -/
structure Accounted (worker : Worker) : Prop where
  allocation : worker.allocation.Reachable
  cluster : worker.cluster.Direct

variable {worker : Worker}

/-- Where the books are in order, the surroundings are. -/
theorem Accounted.grounded (h : worker.Accounted) : worker.Grounded :=
  ⟨h.allocation.sound.pool, h.cluster⟩

/-- Finding a port for a service is one call of the allocator. -/
theorem Maps.allocation_eq {service : Service} {portId : String} {mapped : Worker}
    (h : worker.Maps service portId mapped) :
    mapped.allocation =
      worker.allocation.after (.map service.id service.transportPorts service.boundPort) := by
  obtain ⟨allocator, pool, hmap, rfl⟩ := h
  simp only [allocation, Allocation.after, hmap]

/-- Finding a port for a service leads on to a state that calls lead to. -/
theorem Maps.reachable {service : Service} {portId : String} {mapped : Worker}
    (h : worker.Maps service portId mapped) (hworker : worker.allocation.Reachable) :
    mapped.allocation.Reachable := by
  rw [h.allocation_eq]
  exact .call _ hworker trivial

/-- The preparation of an update makes at most one call of the allocator. -/
theorem Attempt.reachable {service target : Service} {base : Worker} {push : Bool}
    (h : worker.Attempt service base target push) (hworker : worker.allocation.Reachable) :
    base.allocation.Reachable := by
  cases h with
  | takeOver => exact hworker
  | withdraw => exact hworker
  | release => exact .call (.unmap service.id) hworker trivial
  | stale => exact hworker
  | commit _ _ hmaps => exact hmaps.reachable hworker
  | clearFirst _ _ hmaps => exact hmaps.reachable hworker
  | publish _ _ hmaps => exact hmaps.reachable hworker

/-- An update does not call the allocator. -/
theorem Tried.allocation_eq {target : Service} {push : Bool} {outcome : Outcome}
    (h : worker.Tried target push outcome) : outcome.1.allocation = worker.allocation := by
  cases h <;> rfl

/-- A synchronisation calls the allocator as callers may. -/
theorem Synced.reachable {id : ServiceId} {outcome : Outcome} (h : worker.Synced id outcome)
    (hworker : worker.allocation.Reachable) : outcome.1.allocation.Reachable := by
  cases h with
  | unreadable => exact hworker
  | absent => exact hworker
  | ignored => exact hworker
  | unmappable _ _ _ hpool =>
    rcases hpool with rfl | rfl
    · exact hworker
    · exact .call (.changePool .provision) hworker trivial
  | unaddressed _ _ _ hmaps => exact hmaps.reachable hworker
  | settled _ _ _ hmaps => exact hmaps.reachable hworker
  | tried _ hattempt htried =>
    rw [htried.allocation_eq]
    exact hattempt.reachable hworker

/-- A maintenance job calls the allocator as callers may. -/
theorem Upkeep.reachable {job : Job} {outcome : Outcome} (h : worker.Upkeep job outcome)
    (hworker : worker.allocation.Reachable) : outcome.1.allocation.Reachable := by
  have hpruned : (worker.allocation.after .prune).Reachable := .call .prune hworker trivial
  cases h with
  | refused => exact hpruned
  | @cleaned _ pool hclean havailable =>
    have hpool : worker.pool.change (.clean worker.allocator.usedPorts) = pool := by
      simp only [Pool.change, hclean]
    have hcleaned : Allocation.Reachable { allocator := worker.allocator.prune, pool } := by
      rw [← hpool]
      exact .call (.changePool (.clean worker.allocator.usedPorts)) hpruned trivial
    exact hcleaned.track_available havailable
  | adjusted havailable =>
    have hkept : (worker.allocation.after (.setAvailable worker.pool.ports)).Reachable :=
      .call (.setAvailable worker.pool.ports) hworker trivial
    exact hkept.track_available havailable
  | _ => exact hworker

/-- Every job calls the allocator as callers may. -/
theorem Accounted.run (h : worker.Accounted) (job : Job) : (worker.run job).1.Accounted := by
  refine ⟨?_, (worker.carries_run h.cluster job).cluster h.cluster⟩
  have hworker := h.allocation
  cases job with
  | syncService id => exact (worker.syncService_synced h.cluster id).reachable hworker
  | removeService id annotations =>
    simp only [Worker.run, removeService]
    split
    · exact .call (.unmap id) hworker trivial
    · exact hworker
  | removeCleanupBarrier => exact hworker
  | cleanup => exact (worker.upkeep .cleanup trivial).reachable hworker
  | pushConfig => exact (worker.upkeep .pushConfig trivial).reachable hworker
  | syncAvailablePorts => exact (worker.upkeep .syncAvailablePorts trivial).reachable hworker

/-- Settling a job with the queue leaves the allocator and the pool alone. -/
theorem Settles.accounted {before after : Worker} {job : Job} {outcome : Outcome}
    (hsettles : before.Settles job outcome after) (h : outcome.1.Accounted) : after.Accounted := by
  have hallocation : after.allocation = outcome.1.allocation := by
    simp only [allocation, hsettles.allocator, hsettles.pool]
  exact ⟨hallocation ▸ h.allocation, hsettles.cluster ▸ h.cluster⟩

/-- Whatever happens, the books stay in order. -/
theorem Accounted.after (h : worker.Accounted) (happening : Happening) :
    (worker.after happening).Accounted := by
  have hcluster := worker.direct_after h.cluster happening
  cases happening with
  | delete id =>
    refine ⟨?_, hcluster⟩
    simp only [Worker.after]
    split <;> exact h.allocation
  | turn =>
    rcases worker.turn_cases with heq | ⟨job, rest, -, hsettles⟩
    · rwa [heq]
    · have hhanded : (worker.withJobs rest).Accounted := ⟨h.allocation, h.cluster⟩
      exact hsettles.accounted (hhanded.run job)
  | execute job => exact (worker.execute_settles job).accounted (h.run job)
  | changePool change => exact ⟨.call (.changePool change) h.allocation trivial, hcluster⟩
  | _ => exact ⟨h.allocation, hcluster⟩

/-- Throughout a history the books are in order. -/
theorem Accounted.through {start : Worker} (hstart : start.Accounted) (history : List Happening) :
    (start.through history).Accounted := by
  induction history with
  | nil => exact hstart
  | cons happening earlier ih => exact ih.after happening

/-- The sample worker has its books in order. -/
theorem accounted_sample : sample.Accounted :=
  ⟨.start (.empty _ _ _), direct_sample⟩

end Worker

end Balancer
