import Mathlib
import Balancer.Controller
import Balancer.Proofs.Worker.Attempts
import Balancer.Proofs.Worker.Calls
import Balancer.WorkQueue.Consumer

/-!
# Draining the queue at the end

At the end the worker closes its queue between two jobs and executes what is visible. A closed queue
takes nothing in: neither the follow-ups of the jobs that still run nor their requeues, nor what
producers and passing delays add. So every visible job is executed once, in order, and no other one.
The history of the worker has one entry for each run of a job, with the outcome of this run.

Each job takes the worker four strides. How many are left is known when the queue is closed, and
whatever happens between them, each of them brings the end nearer by one.
-/

namespace Balancer

/-- The job of a run, and why the run failed, if it did. -/
def JobRun.outcome (run : JobRun) : Job × Option JobError :=
  (run.job, run.failure.map Prod.fst)

namespace Worker

variable {worker : Worker}

/-- What happens around the worker executes no job. -/
theorem history_after_outside (worker : Worker) {happening : Happening} (h : happening.Outside) :
    (worker.after happening).history = worker.history := by
  cases happening with
  | delete id =>
    simp only [after]
    split <;> rfl
  | turn => exact h.elim
  | execute job => exact h.elim
  | shutDown => exact h.elim
  | _ => rfl

/-- Settling an attempt at a job adds it to the history, together with its outcome. -/
theorem history_settle (worker : Worker) (job : Job) (failure : Option JobError) :
    ∃ run : JobRun, run.outcome = (job, failure) ∧
      (settle (worker, failure) job).history = worker.history ++ [run] := by
  cases failure with
  | none => exact ⟨{ job }, rfl, rfl⟩
  | some error =>
    exact ⟨{ job, failure := some (error, worker.jobs.requeueCount job + 1) }, rfl, rfl⟩

/-- Settling an attempt with a closed queue changes nothing but the counts of the requeues. -/
theorem queue_settle_of_shuttingDown (hclosed : worker.jobs.queue.shuttingDown = true) (job : Job)
    (failure : Option JobError) :
    ∃ requeues, (settle (worker, failure) job).jobs.queue =
      { worker.jobs.queue with requeues } := by
  rw [jobs_settle]
  split
  · exact ⟨_, rfl⟩
  · exact ⟨worker.jobs.queue.requeues, by rw [DelayQueue.requeue, if_pos hclosed]⟩

/-- A run leaves a closed queue as it is. -/
theorem queue_run_of_shuttingDown (hclosed : worker.jobs.queue.shuttingDown = true) (job : Job) :
    (worker.run job).1.jobs.queue = worker.jobs.queue := by
  obtain ⟨asked, hasked, -⟩ := (worker.frame_run job).asks
  rw [hasked]
  exact WorkQueue.addAll_of_shuttingDown asked hclosed

end Worker

/-- How many strides the worker needs to be done with the job in hand. -/
def Progress.left : Progress → Nat
  | .idle => 0
  | .handed _ => 3
  | .ran _ _ => 2
  | .settled _ => 1

/-- The run that is made and not settled yet. -/
def Progress.unsettled : Progress → List (Job × Option JobError)
  | .ran job failure => [(job, failure)]
  | _ => []

/-- Between two jobs the worker has none in hand. -/
theorem Progress.left_eq_zero_iff (progress : Progress) : progress.left = 0 ↔ progress = .idle := by
  cases progress <;> simp [left]

namespace Execution

variable {execution next : Execution} {stride : Stride}

/-- Whatever happens before the shutdown, the lists of the queue fit together. -/
theorem coherent_after (h : execution.worker.jobs.queue.Coherent) (horderly : execution.Orderly)
    (hstride : stride.Permitted) : (execution.after stride).worker.jobs.queue.Coherent := by
  have hmoves := execution.moves stride
  generalize execution.after stride = next at hmoves
  cases hmoves with
  | stays => exact h
  | outside happening =>
    obtain ⟨asked, hqueue⟩ := execution.worker.queue_after_outside hstride
    rw [hqueue]
    exact h.addAll asked
  | take _ htake =>
    obtain ⟨inner, hinner, rfl⟩ := DelayQueue.take_eq_some htake
    exact h.take hinner
  | @run job _ =>
    obtain ⟨asked, hasked, -⟩ := (execution.worker.frame_run job).asks
    rw [hasked]
    exact h.addAll asked
  | @settle job failure _ =>
    rw [Worker.jobs_settle]
    split
    · exact h.of_eq rfl rfl rfl
    · rw [DelayQueue.queue_requeue _ horderly.accepting]
      have hcounted : (execution.worker.jobs.queue.countRequeue job).Coherent :=
        h.of_eq rfl rfl rfl
      exact hcounted.addAll _
  | @finish job hsettled =>
    refine h.done ?_
    rw [horderly.inHand, hsettled]
    exact List.mem_singleton_self job

/-- Throughout a history before the shutdown the lists of the queue fit together, and the job in
hand is the only one in processing. -/
theorem coherent_through {start : Execution} {backoff : Backoff}
    (hjobs : start.worker.jobs = .fresh backoff) (hidle : start.progress = .idle)
    {history : List Stride} (hhistory : ∀ stride ∈ history, stride.Permitted) :
    (start.through history).worker.jobs.queue.Coherent ∧ (start.through history).Orderly := by
  refine ⟨?_, (orderly_counted hjobs hidle hhistory).1⟩
  induction history with
  | nil =>
    rw [through, hjobs]
    exact WorkQueue.coherent_empty
  | cons stride earlier ih =>
    have hearlier : ∀ stride ∈ earlier, stride.Permitted := fun other hother =>
      hhistory other (List.mem_cons_of_mem _ hother)
    exact coherent_after (ih hearlier) (orderly_counted hjobs hidle hearlier).1
      (hhistory stride List.mem_cons_self)

/-- The worker closes its queue. -/
def close (execution : Execution) : Execution :=
  { execution with worker := execution.worker.after .shutDown }

/-- Whether a stride is the next one of the worker. Between two jobs there is none if no job is
visible. -/
def due (execution : Execution) : Stride → Bool
  | .outside _ => false
  | .take => decide (execution.progress = .idle) && !execution.worker.jobs.queue.isEmpty
  | .run =>
    match execution.progress with
    | .handed _ => true
    | _ => false
  | .settle =>
    match execution.progress with
    | .ran _ _ => true
    | _ => false
  | .finish =>
    match execution.progress with
    | .settled _ => true
    | _ => false

/-- Between two jobs it is time to take one exactly if one can be taken. -/
theorem due_take (worker : Worker) :
    (Execution.mk worker .idle).due .take = worker.jobs.take.isSome := by
  simp only [due, decide_true, Bool.true_and, DelayQueue.take, WorkQueue.take, WorkQueue.isEmpty]
  cases worker.jobs.queue.visible <;> rfl

/-- How many strides of a history were the next ones of the worker. -/
def worked (start : Execution) : List Stride → Nat
  | [] => 0
  | stride :: earlier =>
    start.worked earlier + if (start.through earlier).due stride then 1 else 0

/-- The run that is made at a stride: the job in hand, and why it failed, if it did. -/
def made (execution : Execution) : Stride → Option (Job × Option JobError)
  | .run =>
    match execution.progress with
    | .handed job => some (job, (execution.worker.run job).2)
    | _ => none
  | _ => none

/-- The runs that were made in a history, in order. -/
def ran (start : Execution) : List Stride → List (Job × Option JobError)
  | [] => []
  | stride :: earlier => start.ran earlier ++ ((start.through earlier).made stride).toList

/-- A run is added to the history of the worker when it is settled. -/
theorem history_after (execution : Execution) (hstride : stride.Permitted) :
    ∃ runs : List JobRun,
      (execution.after stride).worker.history = execution.worker.history ++ runs ∧
      runs.map JobRun.outcome ++ (execution.after stride).progress.unsettled =
        execution.progress.unsettled ++ (execution.made stride).toList := by
  have hnone {next : Execution} (hhistory : next.worker.history = execution.worker.history)
      (hruns : next.progress.unsettled =
        execution.progress.unsettled ++ (execution.made stride).toList) :
      ∃ runs : List JobRun, next.worker.history = execution.worker.history ++ runs ∧
        runs.map JobRun.outcome ++ next.progress.unsettled =
          execution.progress.unsettled ++ (execution.made stride).toList :=
    ⟨[], by rw [hhistory, List.append_nil], hruns⟩
  obtain ⟨worker, progress⟩ := execution
  cases stride with
  | outside happening =>
    exact hnone (worker.history_after_outside hstride) (List.append_nil _).symm
  | take =>
    cases progress with
    | idle =>
      cases htake : worker.jobs.take with
      | none => exact hnone (by simp only [after, htake]) (by simp only [after, htake]; rfl)
      | some taken =>
        exact hnone (by simp only [after, htake]; rfl) (by simp only [after, htake]; rfl)
    | _ => exact hnone rfl (List.append_nil _).symm
  | run =>
    cases progress with
    | handed job => exact hnone (worker.history_run job) rfl
    | _ => exact hnone rfl (List.append_nil _).symm
  | settle =>
    cases progress with
    | ran job failure =>
      obtain ⟨run, hrun, hhistory⟩ := worker.history_settle job failure
      exact ⟨[run], hhistory, congrArg (fun outcome => [outcome]) hrun⟩
    | _ => exact hnone rfl (List.append_nil _).symm
  | finish =>
    cases progress with
    | settled job => exact hnone rfl rfl
    | _ => exact hnone rfl (List.append_nil _).symm

/-- The history of the worker has the runs that were made, in order and with their outcomes. -/
theorem history_through (start : Execution) {history : List Stride}
    (hhistory : ∀ stride ∈ history, stride.Permitted) :
    ∃ runs : List JobRun,
      (start.through history).worker.history = start.worker.history ++ runs ∧
      runs.map JobRun.outcome ++ (start.through history).progress.unsettled =
        start.progress.unsettled ++ start.ran history := by
  induction history with
  | nil => exact ⟨[], (List.append_nil _).symm, (List.append_nil _).symm⟩
  | cons stride earlier ih =>
    obtain ⟨runs, hearlier, hruns⟩ := ih fun other hother =>
      hhistory other (List.mem_cons_of_mem _ hother)
    obtain ⟨added, hafter, hadded⟩ :=
      (start.through earlier).history_after (hhistory stride List.mem_cons_self)
    refine ⟨runs ++ added, ?_, ?_⟩
    · rw [through, hafter, hearlier, List.append_assoc]
    · rw [through, List.map_append, List.append_assoc, hadded, ← List.append_assoc, hruns,
        List.append_assoc, ran]

/-- How many strides the worker needs for the job in hand and for the visible ones. -/
def left (execution : Execution) : Nat :=
  4 * execution.worker.jobs.queue.visible.length + execution.progress.left

/-- The jobs that are still to be executed, in order: the one that is attempted and the visible
ones. -/
def awaited (execution : Execution) : List Job :=
  execution.progress.attempted.toList ++ execution.worker.jobs.queue.visible

/-- A worker with a closed queue: only visible jobs are pending, and only the job in hand is in
processing. -/
structure Draining (execution : Execution) : Prop where
  closed : execution.worker.jobs.queue.shuttingDown = true
  coherent : execution.worker.jobs.queue.Coherent
  inHand : execution.worker.jobs.queue.processing = execution.progress.job?.toList
  shown : ∀ job ∈ execution.worker.jobs.queue.pending,
    job ∈ execution.worker.jobs.queue.visible

/-- What the worker does in a number of its strides: it executes jobs from the front of those that
it has to execute. -/
structure Drains (before : Execution) (strides : Nat) (after : Execution) : Prop where
  left : after.left + strides = before.left
  runs : ∃ runs : List JobRun, after.worker.history = before.worker.history ++ runs ∧
    runs.map (·.job) ++ after.awaited = before.awaited

/-- In no stride nothing is executed. -/
theorem Drains.refl (execution : Execution) : execution.Drains 0 execution :=
  ⟨rfl, [], (List.append_nil _).symm, rfl⟩

/-- Strides follow each other. -/
theorem Drains.trans {first second third : Execution} {earlier later : Nat}
    (h : first.Drains earlier second) (h' : second.Drains later third) :
    first.Drains (earlier + later) third := by
  obtain ⟨hleft, runs, hhistory, hjobs⟩ := h
  obtain ⟨hleft', runs', hhistory', hjobs'⟩ := h'
  refine ⟨by omega, runs ++ runs', ?_, ?_⟩
  · rw [hhistory', hhistory, List.append_assoc]
  · rw [List.map_append, List.append_assoc, hjobs', hjobs]

/-- Nothing is executed where neither the history nor what is to be executed changes. -/
theorem drains_of_eq {before after : Execution} {strides : Nat}
    (hleft : after.left + strides = before.left)
    (hhistory : after.worker.history = before.worker.history)
    (hawaited : after.awaited = before.awaited) : before.Drains strides after :=
  ⟨hleft, [], hhistory.trans (List.append_nil _).symm, hawaited⟩

/-- The counts of the requeues are of no account to a worker with a closed queue. -/
theorem Draining.of_requeues (h : execution.Draining)
    (hqueue : ∃ requeues, next.worker.jobs.queue = { execution.worker.jobs.queue with requeues })
    (hjob : next.progress.job? = execution.progress.job?) : next.Draining := by
  obtain ⟨requeues, hqueue⟩ := hqueue
  refine ⟨?_, h.coherent.of_eq ?_ ?_ ?_, ?_, ?_⟩
  · rw [hqueue]
    exact h.closed
  · rw [hqueue]
  · rw [hqueue]
  · rw [hqueue]
  · rw [hqueue, hjob]
    exact h.inHand
  · rw [hqueue]
    exact h.shown

/-- A worker that closes its queue between two jobs has to execute what is visible. -/
theorem draining_close (hcoherent : execution.worker.jobs.queue.Coherent)
    (horderly : execution.Orderly) (hidle : execution.progress = .idle) :
    execution.close.Draining := by
  have hprocessing : execution.worker.jobs.queue.processing = [] := by
    rw [horderly.inHand, hidle]
    rfl
  refine ⟨rfl, hcoherent.of_eq rfl rfl rfl, horderly.inHand, fun job hjob => ?_⟩
  refine (hcoherent.sound job hjob).resolve_right fun hmem => ?_
  rw [hprocessing] at hmem
  cases hmem

/-- Taking a job from a closed queue leaves the others. -/
theorem Draining.take {worker : Worker} (h : (Execution.mk worker .idle).Draining) {job : Job}
    {rest : DelayQueue Job} (htake : worker.jobs.take = some (job, rest)) :
    (Execution.mk (worker.withJobs rest) (.handed job)).Draining ∧
      (Execution.mk worker .idle).Drains 1 ⟨worker.withJobs rest, .handed job⟩ := by
  obtain ⟨inner, hinner, rfl⟩ := DelayQueue.take_eq_some htake
  have hcoherent := h.coherent.take hinner
  obtain ⟨others, hvisible, rfl⟩ := WorkQueue.take_eq_some hinner
  have hprocessing : worker.jobs.queue.processing = [] := h.inHand
  refine ⟨⟨h.closed, hcoherent, ?_, fun other hother => ?_⟩, drains_of_eq ?_ rfl hvisible.symm⟩
  · change worker.jobs.queue.processing.insert job = [job]
    rw [hprocessing]
    rfl
  · have hne : other ≠ job := fun heq =>
      h.coherent.pending_nodup.not_mem_erase (heq ▸ hother)
    have hshown := h.shown other (List.mem_of_mem_erase hother)
    change other ∈ worker.jobs.queue.visible at hshown
    rw [hvisible] at hshown
    exact (List.mem_cons.mp hshown).resolve_left hne
  · change 4 * others.length + 3 + 1 = 4 * worker.jobs.queue.visible.length + 0
    rw [hvisible, List.length_cons]
    omega

/-- The end of a job does not show it again. -/
theorem Draining.finish {worker : Worker} {job : Job}
    (h : (Execution.mk worker (.settled job)).Draining) :
    let next : Execution :=
      { worker := ({ worker with jobs := worker.jobs.done job } : Worker).publish }
    next.Draining ∧ (Execution.mk worker (.settled job)).Drains 1 next := by
  intro next
  have hprocessing : worker.jobs.queue.processing = [job] := h.inHand
  have hmem : job ∈ worker.jobs.queue.processing := hprocessing ▸ List.mem_singleton_self job
  have hpending : job ∉ worker.jobs.queue.pending := fun hpending =>
    h.coherent.idle_of_visible job (h.shown job hpending) hmem
  have hqueue : next.worker.jobs.queue =
      { worker.jobs.queue with processing := worker.jobs.queue.processing.erase job } :=
    if_neg hpending
  refine ⟨⟨?_, h.coherent.done hmem, ?_, ?_⟩, drains_of_eq ?_ rfl ?_⟩
  · rw [hqueue]
    exact h.closed
  · rw [hqueue, hprocessing]
    exact List.erase_cons_head job []
  · rw [hqueue]
    exact h.shown
  · change 4 * next.worker.jobs.queue.visible.length + 0 + 1 = _
    rw [hqueue]
    rfl
  · change [] ++ next.worker.jobs.queue.visible = _
    rw [hqueue]
    rfl

/-- A run of a job asks for nothing that a closed queue takes in. -/
theorem Draining.run {worker : Worker} {job : Job}
    (h : (Execution.mk worker (.handed job)).Draining) :
    let next : Execution :=
      { worker := (worker.run job).1, progress := .ran job (worker.run job).2 }
    next.Draining ∧ (Execution.mk worker (.handed job)).Drains 1 next := by
  intro next
  have hqueue : next.worker.jobs.queue = worker.jobs.queue :=
    Worker.queue_run_of_shuttingDown h.closed job
  refine ⟨h.of_requeues ⟨worker.jobs.queue.requeues, hqueue⟩ rfl,
    drains_of_eq ?_ (worker.history_run job) ?_⟩
  · change 4 * next.worker.jobs.queue.visible.length + 2 + 1 = _
    rw [hqueue]
    rfl
  · change [job] ++ next.worker.jobs.queue.visible = _
    rw [hqueue]
    rfl

/-- A job that failed is not requeued into a closed queue. -/
theorem Draining.settle {worker : Worker} {job : Job} {failure : Option JobError}
    (h : (Execution.mk worker (.ran job failure)).Draining) :
    let next : Execution :=
      { worker := Worker.settle (worker, failure) job, progress := .settled job }
    next.Draining ∧ (Execution.mk worker (.ran job failure)).Drains 1 next := by
  intro next
  have hqueue : ∃ requeues, next.worker.jobs.queue = { worker.jobs.queue with requeues } :=
    Worker.queue_settle_of_shuttingDown h.closed job failure
  obtain ⟨run, hrun, hhistory⟩ := worker.history_settle job failure
  have hjob : run.job = job := congrArg Prod.fst hrun
  refine ⟨h.of_requeues hqueue rfl, ?_, [run], hhistory, ?_⟩
  · obtain ⟨requeues, hqueue⟩ := hqueue
    change 4 * next.worker.jobs.queue.visible.length + 1 + 1 = _
    rw [hqueue]
    rfl
  · obtain ⟨requeues, hqueue⟩ := hqueue
    change [run.job] ++ next.worker.jobs.queue.visible = _
    rw [hqueue, hjob]
    rfl

/-- Whatever happens around a worker with a closed queue, and whatever the worker does, it goes on
draining the queue, by one stride if the stride is the next one of the worker. -/
theorem Draining.after (h : execution.Draining) (hstride : stride.Permitted) :
    (execution.after stride).Draining ∧
      execution.Drains (if execution.due stride then 1 else 0) (execution.after stride) := by
  have hstays : execution.Draining ∧ execution.Drains 0 execution := ⟨h, .refl execution⟩
  obtain ⟨worker, progress⟩ := execution
  cases stride with
  | outside happening =>
    obtain ⟨asked, hasked⟩ := worker.queue_after_outside hstride
    rw [WorkQueue.addAll_of_shuttingDown asked h.closed] at hasked
    have hhistory := worker.history_after_outside hstride
    refine ⟨h.of_requeues ⟨worker.jobs.queue.requeues, hasked⟩ rfl, drains_of_eq ?_ hhistory ?_⟩
    · simp only [left, after, hasked]
      rfl
    · simp only [awaited, after, hasked]
  | take =>
    cases progress with
    | idle =>
      cases htake : worker.jobs.take with
      | none =>
        have hsame : (Execution.mk worker .idle).after .take = ⟨worker, .idle⟩ := by
          simp only [after, htake]
        rw [hsame, due_take, htake]
        exact hstays
      | some taken =>
        have htaken : (Execution.mk worker .idle).after .take =
            ⟨worker.withJobs taken.2, .handed taken.1⟩ := by
          simp only [after, htake]
        rw [htaken, due_take, htake]
        exact h.take htake
    | _ => exact hstays
  | run =>
    cases progress with
    | handed job => exact h.run
    | _ => exact hstays
  | settle =>
    cases progress with
    | ran job failure => exact h.settle
    | _ => exact hstays
  | finish =>
    cases progress with
    | settled job => exact h.finish
    | _ => exact hstays

/-- Throughout what happens to a worker with a closed queue, the worker drains the queue stride by
stride. -/
theorem Draining.through (h : execution.Draining) {later : List Stride}
    (hlater : ∀ stride ∈ later, stride.Permitted) :
    (execution.through later).Draining ∧
      execution.Drains (execution.worked later) (execution.through later) := by
  induction later with
  | nil => exact ⟨h, .refl execution⟩
  | cons stride earlier ih =>
    obtain ⟨hdraining, hdrains⟩ :=
      ih fun other hother => hlater other (List.mem_cons_of_mem _ hother)
    obtain ⟨hafter, hstep⟩ := hdraining.after (hlater stride List.mem_cons_self)
    exact ⟨hafter, hdrains.trans hstep⟩

/-- A worker that needs no further stride is between two jobs and sees none. -/
theorem idle_of_left (hleft : execution.left = 0) :
    execution.progress = .idle ∧ execution.worker.jobs.queue.visible = [] := by
  obtain ⟨hvisible, hprogress⟩ := Nat.add_eq_zero_iff.mp hleft
  exact ⟨execution.progress.left_eq_zero_iff.mp hprogress,
    List.length_eq_zero_iff.mp (by omega)⟩

/-- One stride is next exactly as long as the worker needs further ones. -/
theorem exists_due_iff (execution : Execution) :
    (∃ stride, execution.due stride = true) ↔ 0 < execution.left := by
  constructor
  · rintro ⟨stride, hdue⟩
    refine Nat.pos_of_ne_zero fun hleft => ?_
    obtain ⟨hidle, hempty⟩ := idle_of_left hleft
    cases stride <;> simp [due, hidle, hempty, WorkQueue.isEmpty] at hdue
  · intro hleft
    obtain ⟨worker, progress⟩ := execution
    cases progress with
    | idle =>
      cases htake : worker.jobs.take with
      | none =>
        simp only [left, worker.jobs.take_eq_none_iff.mp htake, List.length_nil] at hleft
        cases hleft
      | some taken => exact ⟨.take, by rw [due_take, htake]; rfl⟩
    | handed job => exact ⟨.run, rfl⟩
    | ran job failure => exact ⟨.settle, rfl⟩
    | settled job => exact ⟨.finish, rfl⟩

/-- The consumer of a closed queue with nothing visible receives the end. -/
theorem Draining.poll_eq_ended (h : execution.Draining)
    (hempty : execution.worker.jobs.queue.visible = []) :
    execution.worker.jobs.poll.1 = .ended := by
  have htake := execution.worker.jobs.take_eq_none_iff.mpr hempty
  simp only [DelayQueue.poll, htake, h.closed, if_true]

/-- A step of a worker with a closed queue is four strides. -/
theorem Draining.step {worker next : Worker} (h : (Execution.mk worker .idle).Draining)
    (hstep : worker.step = some next) :
    (Execution.mk next .idle).Draining ∧
      (Execution.mk worker .idle).Drains 4 (Execution.mk next .idle) := by
  have hpermitted : ∀ stride ∈ [Stride.finish, .settle, .run, .take], stride.Permitted := by
    decide
  obtain ⟨hdraining, hdrains⟩ := h.through hpermitted
  obtain ⟨job, rest, htake, -⟩ := Worker.step_eq_some hstep
  have hworked : (Execution.mk worker .idle).worked [.finish, .settle, .run, .take] = 4 := by
    have hdue : (Execution.mk worker .idle).due .take = true := by rw [due_take, htake]; rfl
    simp only [worked, Execution.through, Execution.after, hdue, htake]
    rfl
  rw [through_step, hstep, Option.getD_some] at hdraining hdrains
  rw [hworked] at hdrains
  exact ⟨hdraining, hdrains⟩

/-- The strides of the worker for a number of jobs when nothing comes between them. -/
def uninterrupted (count : Nat) : List Stride :=
  (List.replicate count [Stride.finish, .settle, .run, .take]).flatten

/-- The strides for a number of jobs are all strides of the worker. -/
theorem permitted_uninterrupted (count : Nat) :
    ∀ stride ∈ uninterrupted count, stride.Permitted := by
  intro stride hstride
  obtain ⟨strides, hstrides, hmem⟩ := List.mem_flatten.mp hstride
  rw [List.eq_of_mem_replicate hstrides] at hmem
  have hown : ∀ stride ∈ [Stride.finish, .settle, .run, .take], stride.Permitted := by decide
  exact hown stride hmem

/-- Executing jobs with a closed queue until none is visible executes as many as were visible. -/
theorem Draining.runAtMost {worker : Worker} (h : (Execution.mk worker .idle).Draining)
    {limit : Nat} (hlimit : worker.jobs.queue.visible.length ≤ limit) :
    (worker.runAtMost limit).1 = worker.jobs.queue.visible.length ∧
      (Execution.mk worker .idle).through (uninterrupted worker.jobs.queue.visible.length) =
        Execution.mk (worker.runAtMost limit).2 .idle ∧
      (Execution.mk (worker.runAtMost limit).2 .idle).Draining ∧
      (Execution.mk worker .idle).Drains (4 * worker.jobs.queue.visible.length)
        (Execution.mk (worker.runAtMost limit).2 .idle) := by
  induction limit generalizing worker with
  | zero =>
    rw [Nat.le_zero.mp hlimit]
    exact ⟨rfl, rfl, h, .refl _⟩
  | succ limit ih =>
    cases hstep : worker.step with
    | none =>
      have hempty := worker.jobs.take_eq_none_iff.mp (Option.map_eq_none_iff.mp hstep)
      simp only [Worker.runAtMost, hstep, hempty, List.length_nil]
      exact ⟨trivial, rfl, h, .refl _⟩
    | some next =>
      obtain ⟨hnext, hdrains⟩ := h.step hstep
      have hleft : 4 * next.jobs.queue.visible.length + 0 + 4 =
          4 * worker.jobs.queue.visible.length + 0 := hdrains.left
      have hlength : worker.jobs.queue.visible.length = next.jobs.queue.visible.length + 1 := by
        omega
      obtain ⟨hcount, hthrough, hend, hrest⟩ := ih hnext (by omega)
      have hall := hdrains.trans hrest
      simp only [Worker.runAtMost, hstep]
      refine ⟨by omega, ?_, hend, ?_⟩
      · have hfirst := through_step worker
        rw [hstep, Option.getD_some] at hfirst
        rw [hlength, uninterrupted, List.replicate_succ', List.flatten_append,
          List.flatten_singleton, through_append, hfirst]
        exact hthrough
      · have hstrides : 4 + 4 * next.jobs.queue.visible.length =
            4 * worker.jobs.queue.visible.length := by omega
        rwa [hstrides] at hall

/-- The bound on the number of jobs allows for the visible ones. -/
theorem length_visible_le_jobBound (worker : Worker) :
    worker.jobs.queue.visible.length ≤ worker.jobBound := by
  let size := worker.jobs.size + worker.allocator.records.size + 1
  have hpositive : 0 < 5 * size := Nat.mul_pos (by decide) (Nat.succ_pos _)
  calc worker.jobs.queue.visible.length
      ≤ size := (Nat.le_add_right _ _).trans (Nat.le_succ _)
    _ ≤ 5 * size * size := Nat.le_mul_of_pos_left size hpositive
    _ ≤ worker.jobBound := Nat.le_mul_self (5 * size * size)

/-- A controller that ends between two jobs executes the visible ones, stride by stride. -/
theorem Draining.finish_controller {controller : Controller}
    (h : (Execution.mk controller.worker .idle).close.Draining) :
    (Execution.mk controller.worker .idle).close.through
        (uninterrupted controller.worker.jobs.queue.visible.length) =
      { worker := controller.finish.worker } ∧
    controller.finish.worker.jobs.poll.1 = .ended ∧
      ∃ runs : List JobRun, controller.finish.worker.history = controller.worker.history ++ runs ∧
        runs.map (·.job) = controller.worker.jobs.queue.visible := by
  obtain ⟨-, hthrough, hend, hdrains⟩ := h.runAtMost (length_visible_le_jobBound _)
  change (Execution.mk controller.finish.worker .idle).Draining at hend
  change Drains _ _ (Execution.mk controller.finish.worker .idle) at hdrains
  have hleft : 4 * controller.finish.worker.jobs.queue.visible.length + 0 +
      4 * controller.worker.jobs.queue.visible.length =
        4 * controller.worker.jobs.queue.visible.length + 0 := hdrains.left
  have hempty : controller.finish.worker.jobs.queue.visible = [] :=
    List.length_eq_zero_iff.mp (by omega)
  obtain ⟨runs, hhistory, hruns⟩ := hdrains.runs
  refine ⟨hthrough, hend.poll_eq_ended hempty, runs, hhistory, ?_⟩
  change runs.map (·.job) ++ controller.finish.worker.jobs.queue.visible =
    controller.worker.jobs.queue.visible at hruns
  rwa [hempty, List.append_nil] at hruns

/-- The shutdown drains exactly the visible jobs. When the worker closes its queue between two jobs,
then whatever the jobs return and ask for, whatever producers add and whichever delays pass, what it
executes and has still to execute are the jobs that were visible, each once and in order. The
entries of its history are the runs that it has made, with their outcomes. Of the four strides for
each job one is next until all are done; then none is, and the consumer receives the end. A
controller that ends makes the strides for exactly these jobs. -/
theorem shutdown_drains_visible {start : Execution} {backoff : Backoff}
    (hjobs : start.worker.jobs = .fresh backoff) (hidle : start.progress = .idle)
    {history : List Stride} (hhistory : ∀ stride ∈ history, stride.Permitted)
    (hbetween : (start.through history).progress = .idle) :
    let before := start.through history
    let jobs := before.worker.jobs.queue.visible
    jobs.Nodup ∧
    (∀ later : List Stride, (∀ stride ∈ later, stride.Permitted) →
      let now := before.close.through later
      (∃ runs : List JobRun, now.worker.history = before.worker.history ++ runs ∧
        runs.map (·.job) ++ now.awaited = jobs ∧
        runs.map JobRun.outcome ++ now.progress.unsettled = before.close.ran later) ∧
      before.close.worked later + now.left = 4 * jobs.length ∧
      ((∃ stride, now.due stride = true) ↔ 0 < now.left) ∧
      (now.left = 0 → now.progress = .idle ∧ now.awaited = [] ∧
        now.worker.jobs.poll.1 = .ended)) ∧
    ∀ controller : Controller, controller.worker = before.worker →
      before.close.through (uninterrupted jobs.length) = { worker := controller.finish.worker } ∧
      controller.finish.worker.jobs.poll.1 = .ended ∧
      ∃ runs : List JobRun, controller.finish.worker.history = before.worker.history ++ runs ∧
        runs.map (·.job) = jobs ∧
        runs.map JobRun.outcome = before.close.ran (uninterrupted jobs.length) := by
  intro before jobs
  obtain ⟨hcoherent, horderly⟩ := coherent_through hjobs hidle hhistory
  have hclosed : before.close.Draining := draining_close hcoherent horderly hbetween
  have hbefore : before = ⟨before.worker, .idle⟩ :=
    congrArg (Execution.mk before.worker) hbetween
  have hunsettled : before.close.progress.unsettled = [] := by rw [hbefore]; rfl
  -- The jobs of the entries and their outcomes are found separately, of the same entries.
  have hmade {later : List Stride} (hlater : ∀ stride ∈ later, stride.Permitted)
      {runs : List JobRun}
      (hruns : (before.close.through later).worker.history = before.worker.history ++ runs) :
      runs.map JobRun.outcome ++ (before.close.through later).progress.unsettled =
        before.close.ran later := by
    obtain ⟨runs', hruns', houtcomes⟩ := before.close.history_through hlater
    have hsame : before.worker.history ++ runs = before.worker.history ++ runs' :=
      hruns.symm.trans hruns'
    rwa [← List.append_cancel_left hsame, hunsettled, List.nil_append] at houtcomes
  refine ⟨hcoherent.visible_nodup, fun later hlater => ?_, fun controller hworker => ?_⟩
  · intro now
    obtain ⟨hdraining, hdrains⟩ := hclosed.through hlater
    refine ⟨?_, ?_, now.exists_due_iff, fun hdone => ?_⟩
    · have hawaited : before.close.awaited = jobs := by rw [hbefore]; rfl
      obtain ⟨runs, hhistory, hruns⟩ := hdrains.runs
      exact ⟨runs, hhistory, hruns.trans hawaited, hmade hlater hhistory⟩
    · have hleft : before.close.left = 4 * jobs.length := by rw [hbefore]; rfl
      rw [Nat.add_comm, ← hleft]
      exact hdrains.left
    · obtain ⟨hprogress, hempty⟩ := idle_of_left hdone
      refine ⟨hprogress, ?_, hdraining.poll_eq_ended hempty⟩
      simp only [awaited, hprogress, hempty]
      rfl
  · rw [hbefore, ← hworker] at hclosed
    have hdrained := hclosed.finish_controller
    rw [hworker, ← hbefore] at hdrained
    obtain ⟨hthrough, hended, runs, hruns, hall⟩ := hdrained
    have houtcomes := hmade (permitted_uninterrupted jobs.length) (by rw [hthrough]; exact hruns)
    rw [hthrough] at houtcomes
    exact ⟨hthrough, hended, runs, hruns, hall, (List.append_nil _).symm.trans houtcomes⟩

/-- The synchronisation of a new service has failed, and its requeue is delayed, when it is asked
for again, together with the removal of another service and that of the cleanup barrier. -/
def hurrying : List Stride :=
  [.outside (.request .removeCleanupBarrier),
    .outside (.request
      (.removeService ⟨"ns", "old"⟩ (Std.ExtTreeMap.empty.insert managedKey "true"))),
    .outside (.request (.syncService ⟨"ns", "web"⟩)), .finish, .settle, .run, .take,
    .outside (.failWrites true), creation]

/-- After the shutdown the synchronisation fails again, a producer asks for a push, the delay
passes, and the removal asks for follow-ups before the barrier is removed. -/
def drainage : List Stride :=
  [.finish, .settle, .run, .take, .finish, .settle, .run, .take, .finish, .outside (.reach 1000),
    .settle, .outside (.request .pushConfig), .run, .take]

/-- The three visible jobs are executed, and nothing else: the synchronisation fails for the store,
and cleanups are allowed at the end. -/
theorem shutdown_drains_visible_hurrying :
    sample.worker.jobs = .fresh .standard ∧ sample.progress = .idle ∧
      (∀ stride ∈ hurrying, stride.Permitted) ∧ (sample.through hurrying).progress = .idle ∧
      (∀ stride ∈ drainage, stride.Permitted) ∧
      ((sample.through hurrying).close.through drainage).worker.jobs.poll.1 = .ended ∧
      (∃ runs : List JobRun,
        ((sample.through hurrying).close.through drainage).worker.history =
          (sample.through hurrying).worker.history ++ runs ∧
        runs.map JobRun.outcome = [(.syncService ⟨"ns", "web"⟩, some (.store .writesFailing)),
          (.removeService ⟨"ns", "old"⟩ (Std.ExtTreeMap.empty.insert managedKey "true"), none),
          (.removeCleanupBarrier, none)]) ∧
      (sample.through hurrying).worker.cleanupsAllowed = false ∧
      ((sample.through hurrying).close.through drainage).worker.cleanupsAllowed = true := by
  have hjobs : sample.worker.jobs = .fresh .standard := rfl
  have hpermitted : ∀ stride ∈ hurrying, stride.Permitted := by decide +kernel
  have hbetween : (sample.through hurrying).progress = .idle := by decide +kernel
  have hdrainage : ∀ stride ∈ drainage, stride.Permitted := by decide +kernel
  obtain ⟨-, hall, -⟩ := shutdown_drains_visible hjobs rfl hpermitted hbetween
  obtain ⟨⟨runs, hhistory, -, houtcomes⟩, -, -, hended⟩ := hall drainage hdrainage
  have hleft : ((sample.through hurrying).close.through drainage).left = 0 := by decide +kernel
  have hran : (sample.through hurrying).close.ran drainage =
      [(.syncService ⟨"ns", "web"⟩, some (.store .writesFailing)),
        (.removeService ⟨"ns", "old"⟩ (Std.ExtTreeMap.empty.insert managedKey "true"), none),
        (.removeCleanupBarrier, none)] := by
    decide +kernel
  obtain ⟨hprogress, -, hpoll⟩ := hended hleft
  rw [hprogress, hran] at houtcomes
  refine ⟨hjobs, rfl, hpermitted, hbetween, hdrainage, hpoll, ⟨runs, hhistory, ?_⟩, ?_, ?_⟩
  · exact (List.append_nil _).symm.trans houtcomes
  · decide +kernel
  · decide +kernel

end Execution

end Balancer
