import Mathlib
import Balancer.Proofs.Pool.History
import Balancer.Proofs.WorkQueue.Waiting
import Balancer.Proofs.Worker.Synchronisation
import Balancer.Proofs.Worker.Upkeep
import Balancer.Worker

/-!
# What every job leaves in order

Whatever a job does, the pool changes at most as its own calls change it, the cache keeps following
the store, the nodes stay, and no job that waits is lost. Executing a job adds the bookkeeping of
the queue to this: a job that failed waits again.
-/

namespace Balancer

namespace Worker

/-- The surroundings of a worker are in order: the pool keeps its books, and the cache follows the
store. -/
structure Grounded (worker : Worker) : Prop where
  pool : worker.pool.Sound
  cluster : worker.cluster.Direct

/-- What every part of a job keeps. -/
structure Carries (before after : Worker) : Prop where
  pool : after.pool = before.pool ∨ ∃ change, after.pool = before.pool.change change
  cluster : before.cluster.Direct → after.cluster.Direct
  nodes : after.cluster.store.nodes = before.cluster.store.nodes
  jobs : before.jobs.Extends after.jobs

/-- Doing nothing keeps everything. -/
theorem Carries.refl (worker : Worker) : worker.Carries worker :=
  ⟨Or.inl rfl, id, rfl, .refl worker.jobs⟩

/-- Jobs keep the surroundings in order. -/
theorem Carries.grounded {before after : Worker} (h : before.Carries after)
    (hbefore : before.Grounded) : after.Grounded :=
  ⟨hbefore.pool.of_moved h.pool, h.cluster hbefore.cluster⟩

/-- Jobs take no address of a port back. -/
theorem Carries.keepsAddresses {before after : Worker} (h : before.Carries after)
    (hbefore : before.Grounded) : before.pool.KeepsAddresses after.pool :=
  hbefore.pool.keepsAddresses_of_moved h.pool

variable {worker : Worker}

/-- Mapping a service keeps everything but the allocator and the pool, and moves the pool at most
by one request for a port. -/
theorem Maps.carries {service : Service} {portId : String} {mapped : Worker}
    (h : worker.Maps service portId mapped) : worker.Carries mapped := by
  obtain ⟨allocator, pool, hmap, rfl⟩ := h
  refine ⟨?_, id, rfl, .refl worker.jobs⟩
  have hpool := worker.allocator.pool_map worker.pool service.id service.transportPorts
    service.boundPort
  rw [hmap] at hpool
  exact hpool.imp id fun hprovision => ⟨.provision, hprovision⟩

/-- The preparation of an update keeps everything. -/
theorem Attempt.carries {service target : Service} {base : Worker} {push : Bool}
    (h : worker.Attempt service base target push) : worker.Carries base := by
  cases h with
  | takeOver => exact .refl worker
  | withdraw => exact .refl worker
  | release => exact ⟨Or.inl rfl, id, rfl, .refl worker.jobs⟩
  | stale => exact .refl worker
  | commit _ _ hmaps => exact hmaps.carries
  | clearFirst _ _ hmaps => exact hmaps.carries
  | publish _ _ hmaps => exact hmaps.carries

/-- The preparation of an update stores nothing. -/
theorem Attempt.get?_eq {service target : Service} {base : Worker} {push : Bool}
    (h : worker.Attempt service base target push) (id : ServiceId) :
    base.cluster.store.get? id = worker.cluster.store.get? id := by
  cases h with
  | takeOver => rfl
  | withdraw => rfl
  | release => rfl
  | stale => rfl
  | commit _ _ hmaps => exact hmaps.get?_eq id
  | clearFirst _ _ hmaps => exact hmaps.get?_eq id
  | publish _ _ hmaps => exact hmaps.get?_eq id

/-- An update keeps everything besides the object that it stores. -/
theorem Tried.carries {target : Service} {push : Bool} {outcome : Outcome}
    (h : worker.Tried target push outcome) : worker.Carries outcome.1 := by
  cases h with
  | refused error events => exact ⟨Or.inl rfl, fun h => ⟨h.thawed, h.keyed⟩, rfl, .refl worker.jobs⟩
  | stored events =>
    refine ⟨Or.inl rfl, fun h => ?_, rfl, ?_⟩
    · exact ⟨(h.storing target.renewed).thawed, (h.storing target.renewed).keyed⟩
    · cases push with
      | false => exact .refl worker.jobs
      | true => exact worker.jobs.extends_add .pushConfig

/-- Parts of a job that follow each other keep what each of them keeps, where only the first one
moves the pool. -/
theorem Carries.trans {first second third : Worker} (h : first.Carries second)
    (h' : second.Carries third) (hpool : third.pool = second.pool) : first.Carries third := by
  refine ⟨?_, h'.cluster ∘ h.cluster, h'.nodes.trans h.nodes, h.jobs.trans h'.jobs⟩
  rw [hpool]
  exact h.pool

/-- An update does not move the pool. -/
theorem Tried.pool_eq {target : Service} {push : Bool} {outcome : Outcome}
    (h : worker.Tried target push outcome) : outcome.1.pool = worker.pool := by
  cases h <;> rfl

/-- A synchronisation keeps everything besides the object that it stores. -/
theorem Synced.carries {id : ServiceId} {outcome : Outcome} (h : worker.Synced id outcome) :
    worker.Carries outcome.1 := by
  cases h with
  | unreadable => exact .refl worker
  | absent => exact .refl worker
  | ignored => exact .refl worker
  | unmappable _ _ _ hpool =>
    refine ⟨?_, fun h => h, rfl, .refl worker.jobs⟩
    exact hpool.imp (fun h => h) fun hprovision => ⟨.provision, hprovision⟩
  | unaddressed _ _ _ hmaps => exact hmaps.carries
  | @settled _ _ _ _ _ mapped hmaps =>
    exact hmaps.carries.trans ⟨Or.inl rfl, fun h => h, rfl, mapped.jobs.extends_add .pushConfig⟩ rfl
  | tried _ hattempt htried => exact hattempt.carries.trans htried.carries htried.pool_eq

/-- A maintenance job keeps everything but the ports that a cleanup deletes. -/
theorem Upkeep.carries {job : Job} {outcome : Outcome} (h : worker.Upkeep job outcome) :
    worker.Carries outcome.1 := by
  cases h with
  | barred => exact .refl worker
  | refused => exact ⟨Or.inl rfl, fun h => h, rfl, .refl worker.jobs⟩
  | cleaned _ hclean =>
    refine ⟨Or.inr ⟨.clean worker.allocator.usedPorts, ?_⟩, fun h => h, rfl, .refl worker.jobs⟩
    simp only [Pool.change, hclean]
  | ungenerated => exact .refl worker
  | unpushed => exact .refl worker
  | pushed => exact ⟨Or.inl rfl, fun h => h, rfl, .refl worker.jobs⟩
  | unlisted => exact .refl worker
  | adjusted => exact ⟨Or.inl rfl, fun h => h, rfl, worker.jobs.extends_addAll _⟩

/-- Every job keeps the surroundings of the worker in order. -/
theorem carries_run (worker : Worker) (hcluster : worker.cluster.Direct) (job : Job) :
    worker.Carries (worker.run job).1 := by
  cases job with
  | syncService id => exact (worker.syncService_synced hcluster id).carries
  | removeService id annotations =>
    simp only [run, removeService]
    split
    · exact ⟨Or.inl rfl, fun h => h, rfl,
        (worker.jobs.extends_add .cleanup).trans (DelayQueue.extends_add _ Job.pushConfig)⟩
    · exact .refl worker
  | removeCleanupBarrier => exact ⟨Or.inl rfl, fun h => h, rfl, .refl worker.jobs⟩
  | cleanup => exact (worker.upkeep .cleanup trivial).carries
  | pushConfig => exact (worker.upkeep .pushConfig trivial).carries
  | syncAvailablePorts => exact (worker.upkeep .syncAvailablePorts trivial).carries

/-- Only a synchronisation stores anything. -/
theorem get?_run (worker : Worker) {job : Job} (hjob : ∀ id, job ≠ .syncService id)
    (id : ServiceId) :
    (worker.run job).1.cluster.store.get? id = worker.cluster.store.get? id := by
  cases job with
  | syncService id => exact absurd rfl (hjob id)
  | removeService =>
    simp only [run, removeService]
    split <;> rfl
  | removeCleanupBarrier => rfl
  | cleanup => rw [(worker.upkeep .cleanup trivial).surroundings.1]
  | pushConfig => rw [(worker.upkeep .pushConfig trivial).surroundings.1]
  | syncAvailablePorts => rw [(worker.upkeep .syncAvailablePorts trivial).surroundings.1]

/-- Executing a job runs it and settles it with the queue. Every job that waits after the run goes
on waiting, and a failed job waits again. -/
theorem execute_eq (worker : Worker) (job : Job) :
    ∃ jobs published history,
      worker.execute job = { (worker.run job).1 with jobs, published, history } ∧
        (worker.run job).1.jobs.Extends jobs ∧
        ((worker.run job).1.jobs.queue.shuttingDown = false → (worker.run job).2 ≠ none →
          jobs.Waits job) := by
  unfold execute settle
  rcases worker.run job with ⟨after, failure⟩
  cases failure with
  | none =>
    refine ⟨(after.jobs.forget job).done job, _, _, rfl, ?_, fun _ hfailed => absurd rfl hfailed⟩
    exact (after.jobs.extends_forget job).trans (DelayQueue.extends_done _ job)
  | some error =>
    refine ⟨(after.jobs.requeue job).done job, _, _, rfl, ?_, fun hopen _ => ?_⟩
    · exact (after.jobs.extends_requeue job).trans (DelayQueue.extends_done _ job)
    · have hrequeue := after.jobs.extends_requeue job
      exact (DelayQueue.extends_done _ job).waits (hrequeue.shuttingDown.trans hopen) job
        (DelayQueue.waits_requeue hopen job)

/-- The worker with another queue, as after a job was handed out. -/
def withJobs (worker : Worker) (jobs : DelayQueue Job) : Worker :=
  { worker with jobs }

/-- A step takes the first visible job from the queue and executes it. -/
theorem step_eq_some {next : Worker} (h : worker.step = some next) :
    ∃ job rest, worker.jobs.take = some (job, rest) ∧
      next = (worker.withJobs rest).execute job := by
  obtain ⟨⟨job, rest⟩, htake, rfl⟩ := Option.map_eq_some_iff.mp h
  exact ⟨job, rest, htake, rfl⟩

end Worker

end Balancer
