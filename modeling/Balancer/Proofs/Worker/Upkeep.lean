import Mathlib
import Balancer.Proofs.Pool.Availability
import Balancer.Worker

/-!
# What a maintenance job does

A cleanup, a push and a search for vanished ports each call the surroundings, and the first call
that is refused ends the job. A cleanup has pruned the allocator by then. A pool that could be
cleaned lists its ports, so the second call of a cleanup is never refused.
-/

namespace Balancer

/-- Whether a job maintains the ports or the agents, and no single service. -/
def Job.Maintains : Job → Prop
  | .cleanup | .pushConfig | .syncAvailablePorts => True
  | _ => False

namespace Worker

/-- The services that are evicted when the allocator follows the ports of the pool. -/
def evicted (worker : Worker) : List ServiceId :=
  (worker.allocator.setAvailable worker.pool.ports).1

/-- The jobs that follow an eviction. -/
def followUps (evicted : List ServiceId) : List Job :=
  if evicted = [] then [] else evicted.map .syncService ++ [.pushConfig]

/-- Every evicted service is synchronised. -/
theorem syncService_mem_followUps {evicted : List ServiceId} {id : ServiceId}
    (hid : id ∈ evicted) : .syncService id ∈ followUps evicted := by
  rw [followUps, if_neg (List.ne_nil_of_mem hid)]
  exact List.mem_append_left _ (List.mem_map_of_mem hid)

/-- A push follows if any service was evicted. -/
theorem pushConfig_mem_followUps {evicted : List ServiceId} (hsome : evicted ≠ []) :
    .pushConfig ∈ followUps evicted := by
  rw [followUps, if_neg hsome]
  exact List.mem_append_right _ (List.mem_singleton_self _)

/-- What a maintenance job does. -/
inductive Upkeep (worker : Worker) : Job → Outcome → Prop where
  | barred (hallowed : worker.cleanupsAllowed = false) :
      Upkeep worker .cleanup (worker, some .barrierActive)
  | refused (hallowed : worker.cleanupsAllowed = true) {cause : PoolError}
      (hclean : PortPool.clean worker.pool worker.allocator.usedPorts = .error cause) :
      Upkeep worker .cleanup
        ({ worker with allocator := worker.allocator.prune }, some (.pool cause))
  | cleaned (hallowed : worker.cleanupsAllowed = true) {pool : Pool}
      (hclean : PortPool.clean worker.pool worker.allocator.usedPorts = .ok pool)
      (havailable : PortPool.available pool = .ok pool.ports) :
      Upkeep worker .cleanup
        ({ worker with allocator := worker.allocator.prune.track pool.ports, pool }, none)
  | ungenerated {cause : GenerationError}
      (hmodel : worker.modelSource.generate worker.allocator.assignment = .error cause) :
      Upkeep worker .pushConfig (worker, some (.generation cause))
  | unpushed {model : ForwardingModel} {cause : PushError}
      (hmodel : worker.modelSource.generate worker.allocator.assignment = .ok model)
      (hpush : worker.pusher.push model = .error cause) :
      Upkeep worker .pushConfig (worker, some (.push cause))
  | pushed {model : ForwardingModel} {pusher : Pusher}
      (hmodel : worker.modelSource.generate worker.allocator.assignment = .ok model)
      (hpush : worker.pusher.push model = .ok pusher) :
      Upkeep worker .pushConfig ({ worker with pusher }, none)
  | unlisted {cause : PoolError} (havailable : PortPool.available worker.pool = .error cause) :
      Upkeep worker .syncAvailablePorts (worker, some (.pool cause))
  | adjusted (havailable : PortPool.available worker.pool = .ok worker.pool.ports) :
      Upkeep worker .syncAvailablePorts
        ({ worker with
            allocator :=
              (worker.allocator.setAvailable worker.pool.ports).2.track worker.pool.ports
            jobs := worker.jobs.addAll (followUps worker.evicted) }, none)

/-- A maintenance job does one of the things there are. -/
theorem upkeep (worker : Worker) (job : Job) (hjob : job.Maintains) :
    worker.Upkeep job (worker.run job) := by
  cases job with
  | syncService => exact hjob.elim
  | removeService => exact hjob.elim
  | removeCleanupBarrier => exact hjob.elim
  | cleanup =>
    simp only [run, cleanup]
    split
    · next hallowed =>
      cases hclean : PortPool.clean worker.pool worker.allocator.usedPorts with
      | error cause => exact .refused hallowed hclean
      | ok pool =>
        have havailable := Pool.available_of_clean hclean
        simp only [havailable]
        exact .cleaned hallowed hclean havailable
    · next hbarred => exact .barred (Bool.not_eq_true _ ▸ hbarred)
  | pushConfig =>
    simp only [run, pushConfig]
    cases hmodel : worker.modelSource.generate worker.allocator.assignment with
    | error cause => exact .ungenerated hmodel
    | ok model =>
      cases hpush : worker.pusher.push model with
      | error cause =>
        simp only [hpush]
        exact .unpushed hmodel hpush
      | ok pusher =>
        simp only [hpush]
        exact .pushed hmodel hpush
  | syncAvailablePorts =>
    simp only [run, syncAvailablePorts]
    cases havailable : PortPool.available worker.pool with
    | error cause => exact .unlisted havailable
    | ok portIds =>
      obtain rfl := Pool.ports_of_available havailable
      exact .adjusted havailable

variable {worker : Worker} {job : Job} {outcome : Outcome}

/-- A maintenance job reaches neither the store nor the history of the executed jobs. -/
theorem Upkeep.surroundings (h : worker.Upkeep job outcome) :
    outcome.1.cluster = worker.cluster ∧ outcome.1.history = worker.history := by
  cases h <;> exact ⟨rfl, rfl⟩

/-- A push changes at most what the agents have got. -/
theorem run_pushConfig_eq (worker : Worker) :
    ∃ pusher, (worker.run .pushConfig).1 = { worker with pusher } := by
  have hupkeep := worker.upkeep .pushConfig trivial
  generalize worker.run .pushConfig = outcome at hupkeep ⊢
  cases hupkeep with
  | ungenerated => exact ⟨worker.pusher, rfl⟩
  | unpushed => exact ⟨worker.pusher, rfl⟩
  | @pushed _ pusher => exact ⟨pusher, rfl⟩

end Worker

end Balancer
