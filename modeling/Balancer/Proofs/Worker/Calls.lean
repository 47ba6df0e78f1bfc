import Mathlib
import Balancer.Proofs.Worker.Bookkeeping

/-!
# The calls that a job makes

Whatever the surroundings look like, a job that does not maintain the ports makes at most one call
of the allocator: it maps a service or unmaps one. And no job writes into the history of the
executed jobs.
-/

namespace Balancer

/-- Whether a call maps or unmaps a service. -/
def AllocatorCall.ConcernsService : AllocatorCall → Prop
  | .map _ _ _ | .unmap _ => True
  | _ => False

namespace Worker

/-- What a job does that makes at most one call of the allocator, which concerns a service. -/
structure Consults (before after : Worker) : Prop where
  allocation : after.allocation = before.allocation ∨
    ∃ call : AllocatorCall, call.ConcernsService ∧
      after.allocation = before.allocation.after call
  history : after.history = before.history

/-- What a part of a job does that makes no call of the allocator. -/
structure Abstains (before after : Worker) : Prop where
  allocation : after.allocation = before.allocation
  history : after.history = before.history

variable {before after first second third : Worker}

/-- Making no call is making at most one. -/
theorem Abstains.consults (h : before.Abstains after) : before.Consults after :=
  ⟨Or.inl h.allocation, h.history⟩

/-- After at most one call no further one may follow. -/
theorem Consults.trans (h : first.Consults second) (h' : second.Abstains third) :
    first.Consults third := by
  refine ⟨?_, h'.history.trans h.history⟩
  rw [h'.allocation]
  exact h.allocation

/-- Parts that make no call may follow each other. -/
theorem Abstains.trans (h : first.Abstains second) (h' : second.Abstains third) :
    first.Abstains third :=
  ⟨h'.allocation.trans h.allocation, h'.history.trans h.history⟩

/-- A part that makes no call may be followed by another one. -/
theorem Abstains.followedBy {outcome : Outcome} {next : Worker → Outcome}
    (h : before.Abstains outcome.1) (hnext : ∀ worker : Worker, worker.Abstains (next worker).1) :
    before.Abstains (Worker.followedBy outcome next).1 := by
  obtain ⟨worker, failure⟩ := outcome
  cases failure with
  | none => exact h.trans (hnext worker)
  | some error => exact h

/-- Persisting annotations makes no call. -/
theorem abstains_updateService (worker : Worker) (service : Service) :
    worker.Abstains (worker.updateService service).1 := by
  unfold updateService
  split <;> exact ⟨rfl, rfl⟩

/-- Persisting a status makes no call. -/
theorem abstains_updateStatus (worker : Worker) (service : Service) :
    worker.Abstains (worker.updateStatus service).1 := by
  unfold updateStatus
  split <;> exact ⟨rfl, rfl⟩

/-- Withdrawing a status makes no call. -/
theorem abstains_clearStatus (worker : Worker) (service : Service) (event : ServiceEvent) :
    worker.Abstains (worker.clearStatus service event).1 :=
  (worker.abstains_updateStatus _).followedBy fun _ => ⟨rfl, rfl⟩

/-- Taking a service over makes no call. -/
theorem abstains_takeOver (worker : Worker) (service : Service) :
    worker.Abstains (worker.takeOver service).1 :=
  (worker.abstains_updateService _).followedBy fun _ => ⟨rfl, rfl⟩

/-- Recording a port makes no call. -/
theorem abstains_commitPort (worker : Worker) (service : Service) (previous : Option String)
    (portId : String) : worker.Abstains (worker.commitPort service previous portId).1 :=
  (worker.abstains_updateService _).followedBy fun _ => ⟨rfl, rfl⟩

/-- Publishing a status makes no call. -/
theorem abstains_refreshStatus (worker : Worker) (service : Service) :
    worker.Abstains (worker.refreshStatus service).1 := by
  unfold refreshStatus
  split
  · exact ⟨rfl, rfl⟩
  · split
    · exact ⟨rfl, rfl⟩
    · split
      · exact ⟨rfl, rfl⟩
      · exact (worker.abstains_updateStatus _).followedBy fun _ => ⟨rfl, rfl⟩

/-- Giving a service up unmaps it, unless its status has to be withdrawn first. -/
theorem consults_release (worker : Worker) (service : Service) :
    worker.Consults (worker.release service).1 := by
  unfold release
  split
  · exact (worker.abstains_clearStatus service _).consults
  · have hunmapped : worker.Consults
        { worker with allocator := worker.allocator.unmap service.id } :=
      ⟨Or.inr ⟨.unmap service.id, trivial, rfl⟩, rfl⟩
    refine hunmapped.trans (Abstains.followedBy (Abstains.trans ?_ (abstains_updateService _ _))
      fun _ => ⟨rfl, rfl⟩)
    split <;> exact ⟨rfl, rfl⟩

/-- Bringing a managed service up to date maps it, unless its status has to be withdrawn first. -/
theorem consults_syncManaged (worker : Worker) (service : Service) :
    worker.Consults (worker.syncManaged service).1 := by
  simp only [syncManaged]
  split
  · exact (worker.abstains_clearStatus service _).consults
  split
  · -- A mapping that fails is a call too, since it may have moved the pool.
    next hmap =>
    refine ⟨Or.inr ⟨.map service.id service.transportPorts service.boundPort, trivial, ?_⟩, rfl⟩
    simp only [allocation, Allocation.after, hmap]
  · next portId allocator pool hmap =>
    have hmapped : worker.Consults { worker with pool, allocator } := by
      refine ⟨Or.inr ⟨.map service.id service.transportPorts service.boundPort, trivial, ?_⟩, rfl⟩
      simp only [allocation, Allocation.after, hmap]
    refine hmapped.trans ?_
    split
    · exact (abstains_refreshStatus _ service).followedBy fun _ => ⟨rfl, rfl⟩
    · exact abstains_commitPort _ service _ portId
    · exact abstains_clearStatus _ service _

/-- Bringing a service up to date makes at most one call. -/
theorem consults_syncService (worker : Worker) (id : ServiceId) :
    worker.Consults (worker.syncService id).1 := by
  have hidle : worker.Consults worker := ⟨Or.inl rfl, rfl⟩
  unfold syncService
  split
  · exact hidle
  · exact hidle
  · split
    · exact hidle
    · exact worker.consults_release _
    · exact (worker.abstains_takeOver _).consults
    · exact worker.consults_syncManaged _

/-- A job that does not maintain the ports makes at most one call. -/
theorem consults_run (worker : Worker) {job : Job} (hcleanup : job ≠ .cleanup)
    (hports : job ≠ .syncAvailablePorts) : worker.Consults (worker.run job).1 := by
  cases job with
  | syncService id => exact worker.consults_syncService id
  | removeService id annotations =>
    simp only [run, removeService]
    split
    · exact ⟨Or.inr ⟨.unmap id, trivial, rfl⟩, rfl⟩
    · exact ⟨Or.inl rfl, rfl⟩
  | removeCleanupBarrier => exact ⟨Or.inl rfl, rfl⟩
  | cleanup => exact absurd rfl hcleanup
  | pushConfig =>
    obtain ⟨pusher, heq⟩ := worker.run_pushConfig_eq
    rw [heq]
    exact ⟨Or.inl rfl, rfl⟩
  | syncAvailablePorts => exact absurd rfl hports

/-- A job does not write into the history of the executed jobs. -/
theorem history_run (worker : Worker) (job : Job) :
    (worker.run job).1.history = worker.history := by
  by_cases hcleanup : job = .cleanup
  · subst hcleanup
    exact (worker.upkeep .cleanup trivial).surroundings.2
  by_cases hports : job = .syncAvailablePorts
  · subst hports
    exact (worker.upkeep .syncAvailablePorts trivial).surroundings.2
  exact (worker.consults_run hcleanup hports).history

end Worker

end Balancer
