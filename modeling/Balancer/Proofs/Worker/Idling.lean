import Mathlib
import Balancer.Proofs.Backoff.Delays
import Balancer.Proofs.WorkQueue.Coherence
import Balancer.Proofs.Worker.Calls
import Balancer.Proofs.Worker.Frame
import Balancer.Proofs.Worker.Transactions
import Balancer.Worker.Loop

/-!
# The way to an idle queue

A job may ask for others, and a job that fails is requeued. Nevertheless the worker comes to an end
if no requeue is without delay. Requeued jobs wait, and the jobs that are asked for cost less than
the one that asks for them: a synchronisation asks at most for a push, and a removal for a cleanup
and a push. A search for vanished ports asks for one synchronisation for each evicted service, but
every service that is evicted gives up its record. Only a synchronisation adds a record, at most
one, and it is used up by this. So the number of the records and of the visible synchronisations
together never grows, and it bounds what a search can cost.

The surroundings are arbitrary, and any of them may fail.
-/

namespace Balancer

namespace Allocator

/-- Unmapping a service adds no record. -/
theorem size_records_unmap_le (allocator : Allocator) (id : ServiceId) :
    (allocator.unmap id).records.size ≤ allocator.records.size :=
  Std.ExtTreeMap.size_erase_le

/-- Binding a service adds at most one record. -/
theorem size_records_bind_le (allocator : Allocator) (id : ServiceId) (ports : List TransportPort)
    (portId : String) :
    (allocator.bind id ports portId).records.size ≤ allocator.records.size + 1 := by
  refine Std.ExtTreeMap.size_insert_le.trans (Nat.add_le_add_right ?_ 1)
  split
  · exact allocator.size_records_unmap_le id
  · exact le_rfl

/-- Every evicted service gives up its record. -/
theorem length_evicted_add_size (allocator : Allocator) (portIds : List String) :
    (allocator.setAvailable portIds).1.length + (allocator.setAvailable portIds).2.records.size =
      allocator.records.size := by
  let stranded := fun entry : ServiceId × Mapping =>
    decide (entry.1 ∈ allocator.strandedBy portIds)
  have hevicted : (allocator.setAvailable portIds).1.length =
      (allocator.records.toList.filter stranded).length := by
    change (allocator.records.keys.filter _).length = _
    rw [← Std.ExtTreeMap.map_fst_toList_eq_keys, List.filter_map, List.length_map]
    rfl
  have hkept : (allocator.setAvailable portIds).2.records.size =
      (allocator.records.toList.filter fun entry => !stranded entry).length := by
    rw [← Std.ExtTreeMap.length_toList]
    change (Std.ExtTreeMap.filter _ allocator.records).toList.length = _
    rw [Std.ExtTreeMap.toList_filter]
    simp [stranded]
  rw [hevicted, hkept, ← List.length_eq_length_filter_add, Std.ExtTreeMap.length_toList]

end Allocator

/-- Mapping a service adds at most one record, and unmapping one adds none. -/
theorem Allocation.size_records_after_le (allocation : Allocation) {call : AllocatorCall}
    (hcall : call.ConcernsService) :
    (allocation.after call).allocator.records.size ≤ allocation.allocator.records.size + 1 := by
  cases call with
  | map id ports preferred =>
    rcases allocation.allocator.map_cases allocation.pool id ports preferred with
      ⟨portId, prepared, rest, hplaced, heq⟩ | ⟨error, rest, -, heq⟩
    · simp only [Allocation.after, heq]
      rw [← hplaced.records_eq]
      exact prepared.size_records_bind_le id ports portId
    · simp only [Allocation.after, heq]
      exact Nat.le_succ _
  | unmap id =>
    exact (allocation.allocator.size_records_unmap_le id).trans (Nat.le_succ _)
  | prune => exact hcall.elim
  | setAvailable => exact hcall.elim
  | track => exact hcall.elim
  | changePool => exact hcall.elim

namespace Job

/-- The number of jobs that a job can lead to, itself included, if at most `bound` services can be
evicted. -/
def cost (bound : Nat) : Job → Nat
  | .syncService _ => 2
  | .removeService _ _ => 3
  | .syncAvailablePorts => 2 * bound + 2
  | .removeCleanupBarrier | .cleanup | .pushConfig => 1

/-- The number of records that a job can add. -/
def gain : Job → Nat
  | .syncService _ => 1
  | _ => 0

/-- What several jobs come to, where each one counts as much as it weighs. -/
def total (weight : Job → Nat) (jobs : List Job) : Nat :=
  (jobs.map weight).sum

/-- A job leads at least to itself. -/
theorem cost_pos (bound : Nat) (job : Job) : 0 < job.cost bound := by
  cases job <;> simp [cost]

/-- A search for vanished ports, or a removal, leads to more than any other job. -/
theorem cost_le (bound : Nat) (job : Job) : job.cost bound ≤ 2 * bound + 3 := by
  cases job <;> simp only [cost] <;> omega

/-- A job adds at most one record. -/
theorem gain_le (job : Job) : job.gain ≤ 1 := by
  cases job <;> simp [gain]

/-- The jobs of two lists come to what those of each come to. -/
theorem total_append (weight : Job → Nat) (jobs others : List Job) :
    total weight (jobs ++ others) = total weight jobs + total weight others := by
  simp [total]

/-- What several jobs come to grows with their number at most. -/
theorem total_le {weight : Job → Nat} {most : Nat} (h : ∀ job, weight job ≤ most)
    (jobs : List Job) : total weight jobs ≤ jobs.length * most := by
  have hweight : ∀ value ∈ jobs.map weight, value ≤ most := by
    intro value hvalue
    obtain ⟨job, -, rfl⟩ := List.mem_map.mp hvalue
    exact h job
  simpa [total] using List.sum_le_card_nsmul _ _ hweight

/-- Fewer jobs come to no more. -/
theorem total_le_of_sublist (weight : Job → Nat) {jobs others : List Job}
    (h : jobs.Sublist others) : total weight jobs ≤ total weight others :=
  (h.map weight).sum_le_sum fun _ _ => Nat.zero_le _

end Job

namespace Worker

open Job (total)

/-- What the jobs that follow an eviction can lead to. -/
theorem cost_followUps_le (bound : Nat) (evicted : List ServiceId) :
    total (Job.cost bound) (followUps evicted) ≤ 2 * evicted.length + 1 := by
  unfold followUps
  split
  · exact Nat.zero_le _
  · rw [Job.total_append]
    apply le_of_eq
    simp [total, Job.cost, Function.comp_def, Nat.mul_comm]

/-- The records that the jobs that follow an eviction can add. -/
theorem gain_followUps (evicted : List ServiceId) :
    total Job.gain (followUps evicted) = evicted.length := by
  unfold followUps
  split
  · next hnone =>
    rw [hnone]
    rfl
  · rw [Job.total_append]
    simp [total, Job.gain, Function.comp_def]

/-- What running a job comes to, which asks for others: they lead to fewer jobs than the job itself,
and the records that are there or can still be added become no more. -/
structure Incurs (before : Worker) (job : Job) (after : Worker) (asked : List Job) : Prop where
  jobs : after.jobs = before.jobs.addAll asked
  other : job ∉ asked
  cost : ∀ bound, before.allocator.records.size ≤ bound →
    total (Job.cost bound) asked < job.cost bound
  gain : after.allocator.records.size + total Job.gain asked ≤
    before.allocator.records.size + job.gain

/-- A run that asks for nothing and adds no record. -/
theorem incurs_nil {before after : Worker} (job : Job) (hjobs : after.jobs = before.jobs)
    (hrecords : after.allocator.records.size ≤ before.allocator.records.size) :
    before.Incurs job after [] :=
  ⟨hjobs, List.not_mem_nil, fun bound _ => job.cost_pos bound,
    hrecords.trans (Nat.le_add_right _ _)⟩

/-- A synchronisation asks at most for a push, and adds at most one record. -/
theorem incurs_syncService (worker : Worker) (id : ServiceId) :
    ∃ asked, worker.Incurs (.syncService id) (worker.syncService id).1 asked := by
  have hrecords : (worker.syncService id).1.allocator.records.size ≤
      worker.allocator.records.size + 1 := by
    rcases (worker.consults_syncService id).allocation with hsame | ⟨call, hcall, hafter⟩
    · exact (congrArg (fun state => state.allocator.records.size) hsame).le.trans (Nat.le_succ _)
    · exact (congrArg (fun state => state.allocator.records.size) hafter).le.trans
        (worker.allocation.size_records_after_le hcall)
  have hjobs : (worker.syncService id).1.jobs = worker.jobs ∨
      (worker.syncService id).1.jobs = worker.jobs.add .pushConfig := by
    have htransacts := worker.transacts_syncService id
    generalize worker.syncService id = outcome at htransacts
    cases htransacts with
    | unwritten _ _ hjobs => exact hjobs
    | written _ _ _ hjobs => exact hjobs
  rcases hjobs with hjobs | hjobs
  · exact ⟨[], hjobs, List.not_mem_nil, fun _ _ => by simp [total, Job.cost], hrecords⟩
  · exact ⟨[.pushConfig], hjobs, by simp, fun _ _ => by simp [total, Job.cost], hrecords⟩

/-- A removal asks at most for a cleanup and a push. -/
theorem incurs_removeService (worker : Worker) (id : ServiceId) (annotations : Annotations) :
    ∃ asked, worker.Incurs (.removeService id annotations)
      (worker.removeService id annotations).1 asked := by
  unfold removeService
  split
  · exact ⟨[.cleanup, .pushConfig], rfl, by simp, fun _ _ => by simp [total, Job.cost],
      worker.allocator.size_records_unmap_le id⟩
  · exact ⟨[], incurs_nil _ rfl le_rfl⟩

/-- A maintenance job asks at most for the synchronisation of evicted services and a push. -/
theorem Upkeep.incurs {worker : Worker} {job : Job} {outcome : Outcome}
    (h : worker.Upkeep job outcome) : ∃ asked, worker.Incurs job outcome.1 asked := by
  cases h with
  | barred => exact ⟨[], incurs_nil _ rfl le_rfl⟩
  | refused => exact ⟨[], incurs_nil _ rfl le_rfl⟩
  | cleaned =>
    refine ⟨[], incurs_nil _ rfl (le_of_eq ?_)⟩
    exact congrArg _ (Allocator.records_track _ _)
  | ungenerated => exact ⟨[], incurs_nil _ rfl le_rfl⟩
  | unpushed => exact ⟨[], incurs_nil _ rfl le_rfl⟩
  | pushed => exact ⟨[], incurs_nil _ rfl le_rfl⟩
  | unlisted => exact ⟨[], incurs_nil _ rfl le_rfl⟩
  | adjusted =>
    have hrecords := worker.allocator.length_evicted_add_size worker.pool.ports
    change worker.evicted.length + _ = _ at hrecords
    refine ⟨followUps worker.evicted, rfl, ?_, fun bound hbound => ?_, ?_⟩
    · unfold followUps
      split <;> simp
    · have hcost := cost_followUps_le bound worker.evicted
      change _ < 2 * bound + 2
      omega
    · have htracked := Allocator.records_track
        (worker.allocator.setAvailable worker.pool.ports).2 worker.pool.ports
      rw [htracked, gain_followUps]
      omega

/-- Every job leads to fewer jobs than were expected of it. -/
theorem incurs_run (worker : Worker) (job : Job) :
    ∃ asked, worker.Incurs job (worker.run job).1 asked := by
  cases job with
  | syncService id => exact worker.incurs_syncService id
  | removeService id annotations => exact worker.incurs_removeService id annotations
  | removeCleanupBarrier => exact ⟨[], incurs_nil _ rfl le_rfl⟩
  | cleanup => exact (worker.upkeep .cleanup trivial).incurs
  | pushConfig => exact (worker.upkeep .pushConfig trivial).incurs
  | syncAvailablePorts => exact (worker.upkeep .syncAvailablePorts trivial).incurs

variable {worker next : Worker}

/-- The settling of a job shows nothing if no requeue is without delay. -/
theorem settle_spec (hdelays : ∀ attempt, 0 < worker.jobs.backoff.delay attempt) (job : Job)
    (failure : Option JobError) :
    ∃ requeues, (settle (worker, failure) job).jobs.queue = { worker.jobs.queue with requeues } ∧
      (settle (worker, failure) job).jobs.backoff = worker.jobs.backoff := by
  rw [jobs_settle]
  split
  · exact ⟨_, rfl, rfl⟩
  · unfold DelayQueue.requeue
    split
    · exact ⟨worker.jobs.queue.requeues, rfl, rfl⟩
    · dsimp only
      rw [if_neg (hdelays _).ne']
      exact ⟨_, rfl, rfl⟩

/-- The number of services that have a record or can get one. -/
def mappable (worker : Worker) : Nat :=
  worker.allocator.records.size + total Job.gain worker.jobs.queue.visible

/-- A worker whose requeued jobs wait, where at most `bound` services can be evicted. -/
structure Bounded (bound : Nat) (worker : Worker) : Prop where
  pending : worker.jobs.queue.pending.Nodup
  delays : ∀ attempt, 0 < worker.jobs.backoff.delay attempt
  mappable : worker.mappable ≤ bound

/-- Executing a job that is not pending shows at most jobs that it asks for. -/
theorem execute_spec (hdelays : ∀ attempt, 0 < worker.jobs.backoff.delay attempt) {job : Job}
    {asked : List Job} (hincurs : worker.Incurs job (worker.run job).1 asked)
    (hpending : worker.jobs.queue.pending.Nodup) (hjob : job ∉ worker.jobs.queue.pending) :
    (worker.execute job).jobs.queue.visible = (worker.jobs.queue.addAll asked).visible ∧
      (worker.execute job).jobs.queue.pending.Nodup ∧
      (worker.execute job).jobs.backoff = worker.jobs.backoff ∧
      (worker.execute job).allocator = (worker.run job).1.allocator := by
  obtain ⟨hnodup, hmem⟩ := WorkQueue.pending_addAll asked hpending
  have hjobs := hincurs.jobs
  rcases hrun : worker.run job with ⟨after, failure⟩
  rw [hrun] at hjobs
  change after.jobs = worker.jobs.addAll asked at hjobs
  have hafter : ∀ attempt, 0 < after.jobs.backoff.delay attempt := by
    rw [hjobs]
    exact hdelays
  obtain ⟨requeues, hqueue, hbackoff⟩ := settle_spec hafter job failure
  have hdone : (worker.execute job).jobs.queue =
      ({ after.jobs.queue with requeues } : WorkQueue Job).done job := by
    rw [← hqueue, ← hrun]
    rfl
  have hended : job ∉ after.jobs.queue.pending := by
    rw [hjobs]
    exact fun hended => (hmem job hended).elim hjob hincurs.other
  have hshown : (worker.execute job).jobs.queue.visible = after.jobs.queue.visible := by
    rw [hdone, WorkQueue.done, if_neg hended]
  refine ⟨hshown.trans (by rw [hjobs]; rfl), ?_, ?_, ?_⟩
  · rw [hdone, WorkQueue.pending_done]
    change after.jobs.queue.pending.Nodup
    rw [hjobs]
    exact hnodup
  · have hsettled : (worker.execute job).jobs.backoff = after.jobs.backoff := by
      rw [← hbackoff, ← hrun]
      rfl
    rw [hsettled, hjobs]
    rfl
  · obtain ⟨jobs, published, history, hexecute, -, -⟩ := worker.execute_eq job
    rw [hexecute, hrun]

/-- Every step uses up a job: those that are visible afterwards lead to fewer jobs. -/
theorem Bounded.step {bound : Nat} (h : worker.Bounded bound) (hstep : worker.step = some next) :
    next.Bounded bound ∧
      total (Job.cost bound) next.jobs.queue.visible <
        total (Job.cost bound) worker.jobs.queue.visible := by
  obtain ⟨job, rest, htake, rfl⟩ := step_eq_some hstep
  obtain ⟨inner, hinner, rfl⟩ := DelayQueue.take_eq_some htake
  obtain ⟨others, hvisible, rfl⟩ := WorkQueue.take_eq_some hinner
  generalize htaken : worker.withJobs _ = taken
  have hqueue : taken.jobs.queue.visible = others ∧
      taken.jobs.queue.pending = worker.jobs.queue.pending.erase job ∧
      taken.jobs.backoff = worker.jobs.backoff ∧ taken.allocator = worker.allocator := by
    subst htaken
    exact ⟨rfl, rfl, rfl, rfl⟩
  obtain ⟨hothers, herased, hpolicy, hallocator⟩ := hqueue
  obtain ⟨asked, hincurs⟩ := taken.incurs_run job
  obtain ⟨hshown, hnodup, hbackoff, hafter⟩ := execute_spec (hpolicy ▸ h.delays) hincurs
    (herased ▸ h.pending.erase job) (herased ▸ h.pending.not_mem_erase)
  obtain ⟨shown, hsublist, hadded⟩ := taken.jobs.queue.visible_addAll asked
  have hnext : (taken.execute job).jobs.queue.visible = others ++ shown := by
    rw [hshown, hadded, hothers]
  have hbefore : ∀ weight, total weight worker.jobs.queue.visible =
      weight job + total weight others := by
    rw [hvisible]
    exact fun _ => rfl
  have hmappable := h.mappable
  unfold Worker.mappable at hmappable
  rw [hbefore] at hmappable
  refine ⟨⟨hnodup, (hbackoff.trans hpolicy) ▸ h.delays, ?_⟩, ?_⟩
  · have hgain := hincurs.gain
    have hfewer := Job.total_le_of_sublist Job.gain hsublist
    unfold Worker.mappable
    rw [hafter, hnext, Job.total_append]
    rw [hallocator] at hgain
    omega
  · have hcost := hincurs.cost bound (hallocator ▸ (Nat.le_add_right _ _).trans hmappable)
    have hfewer := Job.total_le_of_sublist (Job.cost bound) hsublist
    rw [hnext, Job.total_append, hbefore]
    omega

/-- The worker executes a number of jobs. Between them the surroundings may change in any way, while
nobody reaches the queue and the allocator. -/
inductive Works : Worker → Nat → Worker → Prop where
  | done (worker : Worker) : Works worker 0 worker
  | meanwhile {worker after final : Worker} {count : Nat} (hjobs : after.jobs = worker.jobs)
      (hallocator : after.allocator = worker.allocator) (h : Works after count final) :
      Works worker count final
  | step {worker next final : Worker} {count : Nat} (hstep : worker.step = some next)
      (h : Works next count final) : Works worker (count + 1) final

/-- Throughout a run the executed jobs and those that can follow are no more than the visible ones
could lead to at the beginning. -/
theorem Works.spent {bound count : Nat} {final : Worker} (h : worker.Works count final)
    (hbounded : worker.Bounded bound) :
    final.Bounded bound ∧
      count + total (Job.cost bound) final.jobs.queue.visible ≤
        total (Job.cost bound) worker.jobs.queue.visible := by
  induction h with
  | done worker => exact ⟨hbounded, (Nat.zero_add _).le⟩
  | @meanwhile worker after final count hjobs hallocator _ ih =>
    have hmappable : after.mappable = worker.mappable := by
      unfold Worker.mappable
      rw [hjobs, hallocator]
    rw [← hjobs]
    exact ih ⟨hjobs ▸ hbounded.pending, hjobs ▸ hbounded.delays,
      hmappable.le.trans hbounded.mappable⟩
  | step hstep _ ih =>
    obtain ⟨hnext, hfewer⟩ := hbounded.step hstep
    obtain ⟨hfinal, hspent⟩ := ih hnext
    exact ⟨hfinal, by omega⟩

/-- A worker takes no step exactly if it sees no job. -/
theorem step_eq_none_iff (worker : Worker) :
    worker.step = none ↔ worker.jobs.queue.visible = [] :=
  Option.map_eq_none_iff.trans worker.jobs.take_eq_none_iff

/-- The worker works until its limit is reached or no job is visible. -/
theorem works_runAtMost (worker : Worker) (limit : Nat) :
    worker.Works (worker.runAtMost limit).1 (worker.runAtMost limit).2 ∧
      ((worker.runAtMost limit).1 = limit ∨
        (worker.runAtMost limit).2.jobs.queue.visible = []) := by
  induction limit generalizing worker with
  | zero => exact ⟨.done worker, Or.inl rfl⟩
  | succ limit ih =>
    cases hstep : worker.step with
    | none =>
      simp only [runAtMost, hstep]
      exact ⟨.done worker, Or.inr (worker.step_eq_none_iff.mp hstep)⟩
    | some next =>
      obtain ⟨hworks, hend⟩ := ih next
      simp only [runAtMost, hstep]
      exact ⟨.step hstep hworks, hend.imp (congrArg (· + 1)) id⟩

/-- A worker that may execute as many jobs as the visible ones can lead to sees none in the end. -/
theorem Bounded.runAtMost {bound limit : Nat} (h : worker.Bounded bound)
    (hlimit : total (Job.cost bound) worker.jobs.queue.visible ≤ limit) :
    (worker.runAtMost limit).2.jobs.queue.visible = [] := by
  obtain ⟨hworks, hend⟩ := worker.works_runAtMost limit
  refine hend.elim (fun hcount => ?_) id
  have hspent := (hworks.spent h).2
  cases hvisible : (worker.runAtMost limit).2.jobs.queue.visible with
  | nil => rfl
  | cons job others =>
    -- The limit was reached with a job to go, which costs more than is left.
    have hcost := job.cost_pos bound
    rw [hvisible, hcount] at hspent
    change limit + (job.cost bound + total (Job.cost bound) others) ≤ _ at hspent
    omega

/-- Where the jobs came to an end, a higher limit makes no difference. -/
theorem runAtMost_eq_of_idle {limit other : Nat}
    (hidle : (worker.runAtMost limit).2.jobs.queue.visible = [])
    (hother : (worker.runAtMost limit).1 ≤ other) :
    worker.runAtMost other = worker.runAtMost limit := by
  induction limit generalizing worker other with
  | zero =>
    have hstep := worker.step_eq_none_iff.mpr hidle
    cases other with
    | zero => rfl
    | succ other => simp only [runAtMost, hstep]
  | succ limit ih =>
    cases hstep : worker.step with
    | none =>
      cases other with
      | zero => simp only [runAtMost, hstep]
      | succ other => simp only [runAtMost, hstep]
    | some next =>
      simp only [runAtMost, hstep] at hidle hother ⊢
      cases other with
      | zero => omega
      | succ other => simp only [runAtMost, hstep, ih hidle (Nat.le_of_succ_le_succ hother)]

/-- What the visible jobs can lead to, in terms of their number and of the number of records. -/
theorem cost_visible_le (worker : Worker) :
    total (Job.cost worker.mappable) worker.jobs.queue.visible ≤
      worker.jobs.size * (2 * (worker.jobs.size + worker.allocator.records.size) + 3) := by
  have hgain : total Job.gain worker.jobs.queue.visible ≤ worker.jobs.size * 1 :=
    Job.total_le Job.gain_le _
  have hmappable : worker.mappable ≤ worker.jobs.size + worker.allocator.records.size := by
    unfold mappable
    omega
  calc total (Job.cost worker.mappable) worker.jobs.queue.visible
      ≤ worker.jobs.size * (2 * worker.mappable + 3) :=
        Job.total_le (Job.cost_le worker.mappable) _
    _ ≤ worker.jobs.size * (2 * (worker.jobs.size + worker.allocator.records.size) + 3) := by
        gcongr

/-- The bound on the number of jobs allows for all that the visible ones can lead to. -/
theorem cost_visible_le_jobBound (worker : Worker) :
    total (Job.cost worker.mappable) worker.jobs.queue.visible ≤ worker.jobBound := by
  let size := worker.jobs.size + worker.allocator.records.size + 1
  have hsize : worker.jobs.size ≤ size := (Nat.le_add_right _ _).trans (Nat.le_succ _)
  have hfactor : 2 * (worker.jobs.size + worker.allocator.records.size) + 3 ≤ 5 * size := by
    simp only [size]
    omega
  calc total (Job.cost worker.mappable) worker.jobs.queue.visible
      ≤ worker.jobs.size * (2 * (worker.jobs.size + worker.allocator.records.size) + 3) :=
        worker.cost_visible_le
    _ ≤ size * (5 * size) := Nat.mul_le_mul hsize hfactor
    _ = 5 * size * size := Nat.mul_comm _ _
    _ ≤ worker.jobBound := Nat.le_mul_self (5 * size * size)

/-- Running until idle comes to an end with no job visible, whatever the visible jobs are and
whatever of the surroundings fails, if no requeue is without delay. There is a bound on the number
of jobs that holds even if the surroundings change between the jobs, and the limit of the loop makes
no difference. The pending jobs are a set here, as they are in every queue: none is pending
twice. -/
theorem runUntilIdle_ends (hpending : worker.jobs.queue.pending.Nodup)
    (hdelays : ∀ attempt, 0 < worker.jobs.backoff.delay attempt) :
    let result := worker.runUntilIdle
    result.2.jobs.queue.visible = [] ∧
    (∀ limit, result.1 ≤ limit → worker.runAtMost limit = result) ∧
    worker.Works result.1 result.2 ∧
    ∀ count final, worker.Works count final →
      count ≤ worker.jobs.size * (2 * (worker.jobs.size + worker.allocator.records.size) + 3) := by
  intro result
  have hbounded : worker.Bounded worker.mappable := ⟨hpending, hdelays, le_rfl⟩
  have hidle : result.2.jobs.queue.visible = [] :=
    hbounded.runAtMost worker.cost_visible_le_jobBound
  refine ⟨hidle, fun limit => runAtMost_eq_of_idle hidle, (worker.works_runAtMost _).1, ?_⟩
  intro count final hworks
  exact ((Nat.le_add_right _ _).trans (hworks.spent hbounded).2).trans worker.cost_visible_le

/-- A service is published on a port that vanishes then. No agent can be reached, and cleanups are
not allowed yet. -/
def vanished : List Happening :=
  [.request .cleanup, .request .syncAvailablePorts,
    .failPushes (some { total := 1, failures := ["agent-1: connection refused"] }),
    .changePool (.clean []), .turn, .turn, .turn, .turn, .turn,
    .put (.loadBalancer ⟨"ns", "web"⟩ [{ protocol := .tcp, port := 80 }])]

/-- Three jobs lead to two more, and three of the five fail and wait. -/
theorem runUntilIdle_ends_vanished :
    let worker := sample.through vanished
    worker.jobs.queue.pending.Nodup ∧ (∀ attempt, 0 < worker.jobs.backoff.delay attempt) ∧
      worker.jobs.queue.visible = [.pushConfig, .syncAvailablePorts, .cleanup] ∧
      worker.runUntilIdle.1 = 5 ∧ worker.runUntilIdle.2.jobs.queue.visible = [] ∧
      worker.runUntilIdle.2.jobs.delayed.map (·.item) = [.pushConfig, .cleanup, .pushConfig] := by
  intro worker
  have hpending : worker.jobs.queue.pending.Nodup := by decide +kernel
  have hstandard : Backoff.standard.Admissible :=
    ⟨⟨5, by decide, rfl⟩, ⟨1000, by decide, rfl⟩, by decide, by decide⟩
  have hbackoff : worker.jobs.backoff = .standard := by decide +kernel
  have hdelays : ∀ attempt, 0 < worker.jobs.backoff.delay attempt := by
    rw [hbackoff]
    exact (hstandard.sane_iff.mpr (by decide)).positive
  have hsize : worker.jobs.size = 3 ∧ worker.allocator.records.size = 1 := by decide +kernel
  obtain ⟨hidle, hall, hworks, hcount⟩ := runUntilIdle_ends hpending hdelays
  have hfew : worker.runUntilIdle.1 ≤ 33 := by
    rw [hsize.1, hsize.2] at hcount
    exact hcount _ _ hworks
  rw [← hall 33 hfew] at hidle ⊢
  exact ⟨hpending, hdelays, by decide +kernel, by decide +kernel, hidle, by decide +kernel⟩

end Worker

end Balancer
