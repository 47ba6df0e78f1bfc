import Mathlib
import Balancer.Proofs.Allocator.Placement
import Balancer.Proofs.Worker.Upkeep
import Balancer.Worker

/-!
# What a job leaves alone

Whatever the surroundings look like, a job does nothing to the queue but ask for further jobs, and
it never asks for the removal of the barrier. Only the removal of the barrier lifts the barrier, and
only a cleanup takes ports from the pool: the other jobs make at most one.
-/

namespace Balancer

namespace Worker

/-- What a part of a job that does not reach the pool leaves alone: it moves neither the barrier nor
the pool, and only asks for jobs, which are never the removal of the barrier. -/
structure Bystands (before after : Worker) : Prop where
  asks : ∃ asked, after.jobs = before.jobs.addAll asked ∧ Job.removeCleanupBarrier ∉ asked
  allowed : after.cleanupsAllowed = before.cleanupsAllowed
  pool : after.pool = before.pool

/-- What does not touch the queue, the barrier and the pool leaves them alone. -/
theorem Bystands.of_eq {before after : Worker} (hjobs : after.jobs = before.jobs)
    (hallowed : after.cleanupsAllowed = before.cleanupsAllowed)
    (hpool : after.pool = before.pool) : before.Bystands after :=
  ⟨⟨[], hjobs, List.not_mem_nil⟩, hallowed, hpool⟩

/-- Doing nothing leaves everything alone. -/
theorem Bystands.refl (worker : Worker) : worker.Bystands worker :=
  .of_eq rfl rfl rfl

/-- Parts that follow each other leave alone what each of them does. -/
theorem Bystands.trans {first second third : Worker} (h : first.Bystands second)
    (h' : second.Bystands third) : first.Bystands third := by
  obtain ⟨asked, hasked, hbarrier⟩ := h.asks
  obtain ⟨more, hmore, hbarrier'⟩ := h'.asks
  refine ⟨⟨asked ++ more, ?_, ?_⟩, h'.allowed.trans h.allowed, h'.pool.trans h.pool⟩
  · rw [hmore, hasked]
    simp only [DelayQueue.addAll, WorkQueue.addAll, List.foldl_append]
  · rw [List.mem_append]
    exact not_or.mpr ⟨hbarrier, hbarrier'⟩

/-- Asking for another job leaves everything else alone. -/
theorem bystands_enqueue (worker : Worker) {job : Job} (hjob : job ≠ .removeCleanupBarrier) :
    worker.Bystands (worker.enqueue job) :=
  ⟨⟨[job], rfl, by simpa using Ne.symm hjob⟩, rfl, rfl⟩

/-- A part of a job that goes on only if the previous one did not fail. -/
theorem Bystands.followedBy {before : Worker} {outcome : Outcome} {next : Worker → Outcome}
    (h : before.Bystands outcome.1) (hnext : ∀ worker : Worker, worker.Bystands (next worker).1) :
    before.Bystands (Worker.followedBy outcome next).1 := by
  obtain ⟨worker, failure⟩ := outcome
  cases failure with
  | none => exact h.trans (hnext worker)
  | some error => exact h

/-- Persisting annotations reaches only the store. -/
theorem bystands_updateService (worker : Worker) (service : Service) :
    worker.Bystands (worker.updateService service).1 := by
  unfold updateService
  split <;> exact .of_eq rfl rfl rfl

/-- Persisting a status reaches only the store. -/
theorem bystands_updateStatus (worker : Worker) (service : Service) :
    worker.Bystands (worker.updateStatus service).1 := by
  unfold updateStatus
  split <;> exact .of_eq rfl rfl rfl

/-- Withdrawing a status reaches only the cluster. -/
theorem bystands_clearStatus (worker : Worker) (service : Service) (event : ServiceEvent) :
    worker.Bystands (worker.clearStatus service event).1 :=
  (worker.bystands_updateStatus _).followedBy fun _ => .of_eq rfl rfl rfl

/-- Taking a service over reaches only the cluster. -/
theorem bystands_takeOver (worker : Worker) (service : Service) :
    worker.Bystands (worker.takeOver service).1 :=
  (worker.bystands_updateService _).followedBy fun _ => .of_eq rfl rfl rfl

/-- Recording a port reaches only the cluster. -/
theorem bystands_commitPort (worker : Worker) (service : Service) (previous : Option String)
    (portId : String) : worker.Bystands (worker.commitPort service previous portId).1 :=
  (worker.bystands_updateService _).followedBy fun _ => .of_eq rfl rfl rfl

/-- Publishing a status reaches only the cluster. -/
theorem bystands_refreshStatus (worker : Worker) (service : Service) :
    worker.Bystands (worker.refreshStatus service).1 := by
  unfold refreshStatus
  split
  · exact .refl worker
  · split
    · exact .refl worker
    · split
      · exact .refl worker
      · exact (worker.bystands_updateStatus _).followedBy fun _ => .of_eq rfl rfl rfl

/-- Giving a service up asks at most for a push. -/
theorem bystands_release (worker : Worker) (service : Service) :
    worker.Bystands (worker.release service).1 := by
  unfold release
  split
  · exact worker.bystands_clearStatus service _
  · refine Bystands.followedBy (Bystands.trans ?_ (bystands_updateService _ _)) fun next => ?_
    · split <;> exact .of_eq rfl rfl rfl
    · have hlogged : next.Bystands (next.record service.id .released) := .of_eq rfl rfl rfl
      exact hlogged.trans (bystands_enqueue _ (by decide))

/-- What a job leaves alone. -/
structure Frame (before : Worker) (job : Job) (after : Worker) : Prop where
  asks : ∃ asked, after.jobs = before.jobs.addAll asked ∧ Job.removeCleanupBarrier ∉ asked
  allowed : after.cleanupsAllowed =
    (before.cleanupsAllowed || decide (job = .removeCleanupBarrier))
  pool : job ≠ .cleanup →
    after.pool = before.pool ∨ after.pool = (PortPool.provision before.pool).2

/-- A job that does not reach the barrier and the pool. -/
theorem Bystands.frame {before after : Worker} (h : before.Bystands after) {job : Job}
    (hjob : job ≠ .removeCleanupBarrier) : before.Frame job after := by
  refine ⟨h.asks, ?_, fun _ => Or.inl h.pool⟩
  rw [h.allowed, decide_eq_false hjob, Bool.or_false]

/-- Bringing a managed service up to date asks at most for a push, and for at most one new port. -/
theorem frame_syncManaged (worker : Worker) (service : Service) (id : ServiceId) :
    worker.Frame (.syncService id) (worker.syncManaged service).1 := by
  have hpool := worker.allocator.pool_map worker.pool service.id service.transportPorts
    service.boundPort
  simp only [syncManaged]
  split
  · exact (worker.bystands_clearStatus service _).frame nofun
  · split
    · next hmap =>
      rw [hmap] at hpool
      exact ⟨⟨[], rfl, List.not_mem_nil⟩, by simp, fun _ => hpool⟩
    · next portId allocator pool hmap =>
      rw [hmap] at hpool
      -- After the port was found, no part of the job reaches the pool.
      have hrest : ∀ after : Worker, Bystands { worker with pool, allocator } after →
          worker.Frame (.syncService id) after := by
        intro after h
        obtain ⟨asked, hasked⟩ := h.asks
        refine ⟨⟨asked, hasked⟩, ?_, fun _ => ?_⟩
        · rw [h.allowed]
          simp
        · rw [h.pool]
          exact hpool
      split
      · exact hrest _ ((bystands_refreshStatus _ service).followedBy fun next =>
          next.bystands_enqueue (by decide))
      · exact hrest _ (bystands_commitPort _ service _ portId)
      · exact hrest _ (bystands_clearStatus _ service _)

/-- Bringing a service up to date asks at most for a push, and for at most one new port. -/
theorem frame_syncService (worker : Worker) (id : ServiceId) :
    worker.Frame (.syncService id) (worker.syncService id).1 := by
  have hidle : worker.Frame (.syncService id) worker := (Bystands.refl worker).frame nofun
  unfold syncService
  split
  · exact hidle
  · exact hidle
  · split
    · exact hidle
    · exact (worker.bystands_release _).frame nofun
    · exact (worker.bystands_takeOver _).frame nofun
    · exact worker.frame_syncManaged _ id

/-- Only a cleanup reaches the pool, and only a search for vanished ports asks for jobs. -/
theorem Upkeep.frame {worker : Worker} {job : Job} {outcome : Outcome}
    (h : worker.Upkeep job outcome) : worker.Frame job outcome.1 := by
  cases h with
  | barred => exact (Bystands.refl worker).frame nofun
  | refused => exact ⟨⟨[], rfl, List.not_mem_nil⟩, by simp, fun hjob => absurd rfl hjob⟩
  | cleaned => exact ⟨⟨[], rfl, List.not_mem_nil⟩, by simp, fun hjob => absurd rfl hjob⟩
  | ungenerated => exact (Bystands.refl worker).frame nofun
  | unpushed => exact (Bystands.refl worker).frame nofun
  | pushed =>
    refine Bystands.frame ?_ nofun
    exact .of_eq rfl rfl rfl
  | unlisted => exact (Bystands.refl worker).frame nofun
  | adjusted =>
    have hasks : Job.removeCleanupBarrier ∉ followUps worker.evicted := by
      unfold followUps
      split <;> simp
    refine Bystands.frame ?_ nofun
    exact ⟨⟨_, rfl, hasks⟩, rfl, rfl⟩

/-- Whatever a job does, it leaves the rest of the queue, the barrier and the pool alone. -/
theorem frame_run (worker : Worker) (job : Job) : worker.Frame job (worker.run job).1 := by
  cases job with
  | syncService id => exact worker.frame_syncService id
  | removeService id annotations =>
    refine Bystands.frame ?_ nofun
    simp only [run, removeService]
    split
    · have hunmapped : worker.Bystands { worker with allocator := worker.allocator.unmap id } :=
        .of_eq rfl rfl rfl
      exact (hunmapped.trans (bystands_enqueue _ (by decide))).trans
        (bystands_enqueue _ (by decide))
    · exact .refl worker
  | removeCleanupBarrier =>
    exact ⟨⟨[], rfl, List.not_mem_nil⟩, by simp [run], fun _ => Or.inl rfl⟩
  | cleanup => exact (worker.upkeep .cleanup trivial).frame
  | pushConfig => exact (worker.upkeep .pushConfig trivial).frame
  | syncAvailablePorts => exact (worker.upkeep .syncAvailablePorts trivial).frame

/-- What the settling of a job makes of the queue. -/
theorem jobs_settle (worker : Worker) (job : Job) (failure : Option JobError) :
    (Worker.settle (worker, failure) job).jobs =
      if failure = none then worker.jobs.forget job else worker.jobs.requeue job := by
  cases failure with
  | none => rfl
  | some error => rfl

end Worker

end Balancer
