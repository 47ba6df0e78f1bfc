import Mathlib
import Balancer.Proofs.Worker.Cleaning

/-!
# Maintenance jobs that fail

A push and a search for vanished ports make all the calls that can fail before they change anything.
A cleanup does not: it has the allocator forget the ports without allocations, and then it calls the
pool. If the pool cannot be reached, every port is still there, but those without allocations are
not tracked any more, and no service is placed on them before they are tracked again.
-/

namespace Balancer

namespace Allocator

/-- Pruning changes nothing exactly if every tracked port has an allocation. -/
theorem prune_eq_self_iff (allocator : Allocator) :
    allocator.prune = allocator ↔
      ∀ portId ∈ allocator.tracked, ∃ number id, allocator.Holds portId number id := by
  constructor
  · intro heq portId htracked
    rw [← allocator.mem_tracked_prune, heq]
    exact htracked
  · intro hused
    refine ext_entries (fun _ => rfl) fun portId => ?_
    have hkept := allocator.tracked_prune portId
    cases htracked : allocator.tracked[portId]? with
    | none => rw [hkept, htracked, Option.filter_none]
    | some occupancy =>
      have hmem : portId ∈ allocator.prune.tracked :=
        (allocator.mem_tracked_prune portId).mpr <| hused portId <| mem_of_getElem?_eq_some htracked
      rw [Std.ExtTreeMap.mem_iff_isSome_getElem?, hkept, htracked, Option.isSome_filter] at hmem
      rw [hkept, htracked, Option.filter_some, if_pos (by simpa using hmem)]

/-- What a cleanup does with the allocator and a pool of any kind, and why it failed if it did. -/
def tidy {π : Type} [PortPool π] (allocator : Allocator) (pool : π) :
    (Allocator × π) × Option PoolError :=
  match PortPool.clean pool allocator.usedPorts with
  | .error cause => ((allocator.prune, pool), some cause)
  | .ok cleaned =>
    match PortPool.available cleaned with
    | .error cause => ((allocator.prune, cleaned), some cause)
    | .ok portIds => ((allocator.prune.track portIds, cleaned), none)

/-- A cleanup that fails has pruned the allocator. The pool refused to be cleaned and is as it was,
or it was cleaned and refused to list its ports then. -/
theorem tidy_failed {π : Type} [PortPool π] {allocator after : Allocator} {pool rest : π}
    {cause : PoolError} (h : allocator.tidy pool = ((after, rest), some cause)) :
    after = allocator.prune ∧
      (rest = pool ∧ PortPool.clean pool allocator.usedPorts = .error cause ∨
        PortPool.clean pool allocator.usedPorts = .ok rest ∧
          PortPool.available rest = .error cause) := by
  unfold tidy at h
  split at h
  · next hclean =>
    cases h
    exact ⟨rfl, Or.inl ⟨rfl, hclean⟩⟩
  · next hclean =>
    split at h
    · next havailable =>
      cases h
      exact ⟨rfl, Or.inr ⟨hclean, havailable⟩⟩
    · cases h

end Allocator

namespace Worker

variable {worker : Worker} {job : Job}

/-- Once the barrier is lifted, a cleanup tidies the pool of the worker. -/
theorem run_cleanup_eq_tidy (h : worker.cleanupsAllowed = true) :
    worker.run .cleanup =
      ({ worker with
          allocator := (worker.allocator.tidy worker.pool).1.1
          pool := (worker.allocator.tidy worker.pool).1.2 },
        (worker.allocator.tidy worker.pool).2.map .pool) := by
  simp only [run, cleanup, h, if_true, Allocator.tidy]
  cases PortPool.clean worker.pool worker.allocator.usedPorts with
  | error cause => rfl
  | ok cleaned =>
    cases havailable : PortPool.available cleaned with
    | error cause => simp only [havailable]; rfl
    | ok portIds => simp only [havailable]; rfl

/-- Whether a job prunes the allocator before it calls the pool. -/
def PrunesFirst (worker : Worker) (job : Job) : Prop :=
  job = .cleanup ∧ worker.cleanupsAllowed = true

/-- Only a cleanup prunes first. -/
theorem not_prunesFirst (hjob : job ≠ .cleanup) : ¬worker.PrunesFirst job :=
  fun hfirst => hjob hfirst.1

/-- A maintenance job that fails has pruned the allocator if it does this first, and has done
nothing besides. -/
theorem Upkeep.failed {outcome : Outcome} (h : worker.Upkeep job outcome)
    (hfailed : outcome.2 ≠ none) :
    worker.PrunesFirst job ∧ outcome.1 = { worker with allocator := worker.allocator.prune } ∨
      ¬worker.PrunesFirst job ∧ outcome.1 = worker := by
  cases h with
  | barred hbarred =>
    refine Or.inr ⟨fun hfirst => ?_, rfl⟩
    exact absurd (hbarred.symm.trans hfirst.2) (by decide)
  | refused hallowed => exact Or.inl ⟨⟨rfl, hallowed⟩, rfl⟩
  | ungenerated => exact Or.inr ⟨not_prunesFirst (by decide), rfl⟩
  | unpushed => exact Or.inr ⟨not_prunesFirst (by decide), rfl⟩
  | unlisted => exact Or.inr ⟨not_prunesFirst (by decide), rfl⟩
  | cleaned => exact absurd rfl hfailed
  | pushed => exact absurd rfl hfailed
  | adjusted => exact absurd rfl hfailed

/-- What a maintenance job that failed leaves behind: the pool, the records and all numbers are as
before, and so are the tracked ports, unless the job has pruned the allocator first. Then the
allocator has forgotten the ports without allocations. -/
structure Abandons (before : Worker) (job : Job) (after : Worker) : Prop where
  pool : after.pool = before.pool
  records : after.allocator.records = before.allocator.records
  holds : ∀ portId number id,
    after.allocator.Holds portId number id ↔ before.allocator.Holds portId number id
  tracked : ∀ portId, portId ∈ after.allocator.tracked ↔ portId ∈ before.allocator.tracked ∧
    (before.PrunesFirst job → ∃ number id, before.allocator.Holds portId number id)
  allocator : after.allocator = before.allocator ↔ (before.PrunesFirst job →
    ∀ portId ∈ before.allocator.tracked, ∃ number id, before.allocator.Holds portId number id)

/-- A maintenance job that fails is settled with the queue, and the allocator and the pool are as
the run left them. -/
theorem abandons_execute (hjob : job.Maintains) (h : (worker.run job).2 ≠ none) :
    worker.Abandons job (worker.execute job) := by
  obtain ⟨jobs, published, history, hexecute, -, -⟩ := worker.execute_eq job
  rw [hexecute]
  rcases (worker.upkeep job hjob).failed h with ⟨hfirst, hrun⟩ | ⟨hfirst, hrun⟩
  · rw [hrun]
    refine ⟨rfl, rfl, worker.allocator.holds_prune, fun portId => ?_, ?_⟩
    · rw [worker.allocator.mem_tracked_prune, forall_prop_of_true hfirst, iff_and_self]
      exact fun hholds => hholds.choose_spec.choose_spec.tracked
    · rw [worker.allocator.prune_eq_self_iff, forall_prop_of_true hfirst]
  · rw [hrun]
    refine ⟨rfl, rfl, fun _ _ _ => Iff.rfl, fun portId => ?_, ?_⟩
    · exact (and_iff_left fun h => absurd h hfirst).symm
    · exact iff_of_true rfl fun h => absurd h hfirst

/-- A maintenance job that fails leaves the pool, the records and all numbers alone. It leaves the
whole allocator alone too, except that a cleanup after the barrier was lifted makes it forget the
tracked ports without allocations. A cleanup does with the pool of the worker what it would do with
a pool of any kind: where it fails it has pruned the allocator and done nothing else to it, and it
has cleaned the pool if only the listing of the ports was refused. -/
theorem failed_maintenance_abandons (hjob : job.Maintains) {error : JobError}
    (h : (worker.run job).2 = some error) :
    worker.Abandons job (worker.execute job) ∧
      (worker.cleanupsAllowed = true → worker.run .cleanup =
        ({ worker with
            allocator := (worker.allocator.tidy worker.pool).1.1
            pool := (worker.allocator.tidy worker.pool).1.2 },
          (worker.allocator.tidy worker.pool).2.map .pool)) ∧
      ∀ {π : Type} [PortPool π] (pool rest : π) (after : Allocator) (cause : PoolError),
        worker.allocator.tidy pool = ((after, rest), some cause) →
          after = worker.allocator.prune ∧
            (rest = pool ∧ PortPool.clean pool worker.allocator.usedPorts = .error cause ∨
              PortPool.clean pool worker.allocator.usedPorts = .ok rest ∧
                PortPool.available rest = .error cause) := by
  refine ⟨abandons_execute hjob ?_, run_cleanup_eq_tidy, fun pool rest after cause htidy => ?_⟩
  · rw [h]
    exact Option.some_ne_none error
  · exact Allocator.tidy_failed htidy

/-- A port is made and tracked, the barrier is lifted, and then the pool goes out of reach. -/
def interrupted : List Happening :=
  [.changePool (.setUnavailable true), .turn, .request .removeCleanupBarrier, .turn,
    .request .syncAvailablePorts, .changePool .provision]

/-- The cleanup fails. The port is still there, but it is not tracked any more. -/
theorem failed_maintenance_abandons_interrupted :
    ((sample.through interrupted).run .cleanup).2 = some (.pool .offline) ∧
      "port-1" ∈ (sample.through interrupted).allocator.tracked ∧
      "port-1" ∈ ((sample.through interrupted).execute .cleanup).pool.ports ∧
      "port-1" ∉ ((sample.through interrupted).execute .cleanup).allocator.tracked := by
  have hrun : ((sample.through interrupted).run .cleanup).2 = some (.pool .offline) := by
    decide +kernel
  have hports : "port-1" ∈ (sample.through interrupted).pool.ports := by
    decide +kernel
  have hfirst : (sample.through interrupted).PrunesFirst .cleanup := ⟨rfl, by decide +kernel⟩
  have hunused : "port-1" ∉ (sample.through interrupted).allocator.usedPorts := by
    decide +kernel
  have hjob : Job.cleanup.Maintains := trivial
  have habandons := (failed_maintenance_abandons hjob hrun).1
  refine ⟨hrun, by decide +kernel, ?_, fun htracked => ?_⟩
  · rwa [habandons.pool]
  · rw [habandons.tracked] at htracked
    exact hunused ((Allocator.mem_usedPorts_iff _ _).mpr (htracked.2 hfirst))

/-- So not every port that is tracked before a maintenance job fails, and still exists, is tracked
afterwards. -/
theorem exists_forgotten_port :
    ¬∀ (start : Worker) (history : List Happening) (job : Job) (error : JobError),
      start.Accounted → job.Maintains →
        ((start.through history).run job).2 = some error →
          ∀ portId ∈ (start.through history).allocator.tracked,
            portId ∈ ((start.through history).execute job).pool.ports →
              portId ∈ ((start.through history).execute job).allocator.tracked := by
  intro hall
  have hgone : "port-1" ∉ ((sample.through interrupted).execute .cleanup).allocator.tracked := by
    decide +kernel
  refine hgone (hall sample interrupted .cleanup (.pool .offline) accounted_sample trivial ?_
    "port-1" ?_ ?_)
  all_goals decide +kernel

end Worker

end Balancer
