import Mathlib
import Balancer.Proofs.Allocator.Eviction
import Balancer.Proofs.Worker.Bookkeeping

/-!
# Following the ports on offer

The job that looks for vanished ports asks the pool first. If the pool does not answer, the job has
done nothing. Otherwise the allocator tracks exactly the ports on offer afterwards, the services
with numbers on other ports are evicted, and each of them is going to be synchronised.
-/

namespace Balancer

namespace Worker

variable {worker : Worker}

/-- Settling a job that succeeded with the queue leaves the pending jobs pending. -/
theorem pending_execute {job : Job} (h : (worker.run job).2 = none) :
    (worker.execute job).jobs.queue.pending = (worker.run job).1.jobs.queue.pending := by
  simp only [execute, settle, h, publish, DelayQueue.done, DelayQueue.forget,
    WorkQueue.pending_done, WorkQueue.forget]

/-- What a successful search for vanished ports does: exactly the ports on offer are tracked, the
services with numbers on other ports are evicted and lose their records and all their numbers, and
the other services lose nothing. If the queue is open, every evicted service is going to be
synchronised, and if there is one, a push follows. -/
structure Adjusts (before : Worker) (evicted : List ServiceId) (after : Worker) : Prop where
  offered : PortPool.available before.pool = .ok before.pool.ports
  pool : after.pool = before.pool
  tracked : ∀ portId, portId ∈ after.allocator.tracked ↔ portId ∈ before.pool.ports
  stranded : ∀ id, id ∈ evicted ↔
    ∃ portId number, portId ∉ before.pool.ports ∧ before.allocator.Holds portId number id
  records : ∀ id : ServiceId, after.allocator.records[id]? =
    if id ∈ evicted then none else before.allocator.records[id]?
  holds : ∀ portId number id, after.allocator.Holds portId number id ↔
    before.allocator.Holds portId number id ∧ id ∉ evicted
  synced : before.jobs.queue.shuttingDown = false → ∀ id ∈ evicted,
    .syncService id ∈ after.jobs.queue.pending
  pushed : before.jobs.queue.shuttingDown = false → evicted ≠ [] →
    .pushConfig ∈ after.jobs.queue.pending

/-- A search for vanished ports that succeeds adjusts the allocator to the ports on offer. -/
theorem Accounted.adjusts (hworker : worker.Accounted)
    (h : (worker.run .syncAvailablePorts).2 = none) :
    worker.Adjusts worker.evicted (worker.execute .syncAvailablePorts) := by
  have hpending := pending_execute h
  obtain ⟨jobs, published, history, hexecute, -, -⟩ := worker.execute_eq .syncAvailablePorts
  have hevicts := hworker.allocation.sound.exact.evicts worker.pool.ports
  have hupkeep := worker.upkeep .syncAvailablePorts trivial
  generalize worker.run .syncAvailablePorts = outcome at h hpending hexecute hupkeep
  cases hupkeep with
  | unlisted => cases h
  | adjusted hoffered =>
    have hfollow (hopen : worker.jobs.queue.shuttingDown = false) (job : Job)
        (hjob : job ∈ followUps worker.evicted) :
        job ∈ (worker.execute .syncAvailablePorts).jobs.queue.pending := by
      rw [hpending]
      exact (WorkQueue.mem_pending_addAll _ _ hopen).mpr (Or.inl hjob)
    refine ⟨hoffered, ?_, fun portId => ?_, hevicts.stranded, fun id => ?_,
      fun portId number id => ?_, fun hopen id hid => ?_, fun hopen hsome => ?_⟩
    · rw [hexecute]
    · rw [hexecute, Allocator.mem_tracked_track, or_iff_left_iff_imp]
      exact fun htracked => hevicts.listed htracked
    · rw [hexecute, Allocator.records_track]
      exact hevicts.records id
    · rw [hexecute, Allocator.holds_track]
      exact hevicts.holds portId number id
    · exact hfollow hopen _ (syncService_mem_followUps hid)
    · exact hfollow hopen _ (pushConfig_mem_followUps hsome)

/-- The worker with its own queue is the worker itself. -/
theorem withJobs_jobs (worker : Worker) : worker.withJobs worker.jobs = worker := rfl

/-- Eviction is exact. In every state that calls lead to, whatever ports are listed, dropping the
other ports one after the other comes to the same as dropping them at once, and it evicts exactly
the services with numbers on a dropped port. At the level of jobs, in every state of a worker and
whatever its queue holds, a search for vanished ports that succeeds adjusts the allocator to the
ports on offer. -/
theorem eviction_exact :
    (∀ (allocation : Allocation) (portIds : List String), allocation.Reachable →
      allocation.allocator.setAvailableInPlace portIds =
          allocation.allocator.setAvailable portIds ∧
        allocation.allocator.Evicts portIds (allocation.allocator.setAvailable portIds).1
          (allocation.allocator.setAvailable portIds).2) ∧
    ∀ (start : Worker) (history : List Happening) (jobs : DelayQueue Job), start.Accounted →
      (((start.through history).withJobs jobs).run .syncAvailablePorts).2 = none →
        ((start.through history).withJobs jobs).Adjusts (start.through history).evicted
          (((start.through history).withJobs jobs).execute .syncAvailablePorts) := by
  constructor
  · intro allocation portIds hreachable
    exact ⟨allocation.allocator.setAvailableInPlace_eq portIds,
      hreachable.sound.exact.evicts portIds⟩
  · intro start history jobs hstart hrun
    have hworker := hstart.through history
    have hhanded : ((start.through history).withJobs jobs).Accounted :=
      ⟨hworker.allocation, hworker.cluster⟩
    exact hhanded.adjusts hrun

/-- A service with two numbers and one that conflicts with it are put and brought up to date, and
then the port of the first one is deleted. -/
def displaced : List Happening :=
  [.changePool (.remove "port-1"), .turn, .turn, .turn, .turn, .turn,
    .put (.loadBalancer ⟨"ns", "dns"⟩
      [{ protocol := .udp, port := 53 }, { protocol := .tcp, port := 80 }]),
    .turn, .turn, .turn, .turn, .turn,
    .put (.loadBalancer ⟨"ns", "web"⟩
      [{ protocol := .tcp, port := 80 }, { protocol := .tcp, port := 443 }])]

/-- With only the first port and an unknown one listed, the second service is evicted, once although
it has two numbers. The job evicts the first one, tracks the second port only, and the evicted
service is going to be synchronised. -/
theorem eviction_exact_displaced :
    ((sample.through displaced).allocator.setAvailableInPlace ["port-9", "port-1", "port-9"]).1 =
        [⟨"ns", "dns"⟩] ∧
      (∀ portId number, ¬((sample.through displaced).allocator.setAvailable
        ["port-9", "port-1", "port-9"]).2.Holds portId number ⟨"ns", "dns"⟩) ∧
      (sample.through displaced).evicted = [⟨"ns", "web"⟩] ∧
      (∀ portId,
        portId ∈ ((sample.through displaced).execute .syncAvailablePorts).allocator.tracked ↔
          portId = "port-2") ∧
      .syncService ⟨"ns", "web"⟩ ∈
        ((sample.through displaced).execute .syncAvailablePorts).jobs.queue.pending ∧
      .pushConfig ∈
        ((sample.through displaced).execute .syncAvailablePorts).jobs.queue.pending := by
  have hworker := accounted_sample.through displaced
  obtain ⟨hwalk, hevicts⟩ := eviction_exact.1 (sample.through displaced).allocation
    ["port-9", "port-1", "port-9"] hworker.allocation
  simp only [allocation] at hwalk hevicts
  have hadjusts := eviction_exact.2 sample displaced (sample.through displaced).jobs
    accounted_sample (by decide +kernel)
  have hlisted : ((sample.through displaced).allocator.setAvailable
      ["port-9", "port-1", "port-9"]).1 = [⟨"ns", "dns"⟩] := by
    decide +kernel
  have hevicted : (sample.through displaced).evicted = [⟨"ns", "web"⟩] := by
    decide +kernel
  have hports : (sample.through displaced).pool.ports = ["port-2"] := by
    decide +kernel
  have hopen : (sample.through displaced).jobs.queue.shuttingDown = false := by
    decide +kernel
  rw [withJobs_jobs, hevicted] at hadjusts
  rw [hwalk]
  refine ⟨hlisted, fun portId number hholds => ?_, hevicted,
    fun portId => ?_, ?_, ?_⟩
  · have hkept := ((hevicts.holds portId number _).mp hholds).2
    exact hkept (hlisted ▸ List.mem_singleton_self _)
  · have htracked := hadjusts.tracked portId
    rw [hports, List.mem_singleton] at htracked
    exact htracked
  · exact hadjusts.synced hopen _ (List.mem_singleton_self _)
  · exact hadjusts.pushed hopen (List.cons_ne_nil _ _)

end Worker

end Balancer
