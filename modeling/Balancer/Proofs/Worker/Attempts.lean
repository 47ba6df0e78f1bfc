import Mathlib
import Balancer.Proofs.WorkQueue.Integrity
import Balancer.Proofs.Worker.Frame
import Balancer.Proofs.Worker.History

/-!
# Attempts at jobs

The work of the worker stride by stride: a job is handed out, run, settled with the queue and marked
as processed. Anything may happen around the worker between two strides, so a job may be asked for
while it is run, and its delays may pass at any time.

A job that was accepted stays in sight until an attempt at it that began afterwards has succeeded,
and the requeues of a job count its failures since the last success.
-/

namespace Balancer

/-- How far the worker is with a job. -/
inductive Progress where
  | idle
  /-- The job was handed out. -/
  | handed (job : Job)
  /-- The job was run, and this is why it failed, if it did. -/
  | ran (job : Job) (failure : Option JobError)
  /-- The job was forgotten or requeued. -/
  | settled (job : Job)
  deriving DecidableEq

namespace Progress

/-- The job that the worker has in hand. -/
def job? : Progress → Option Job
  | .idle => none
  | .handed job | .ran job _ | .settled job => some job

/-- The job that the worker attempts, until the attempt is settled. -/
def attempted : Progress → Option Job
  | .idle | .settled _ => none
  | .handed job | .ran job _ => some job

end Progress

/-- A stride of the worker, or something that happens around it. -/
inductive Stride where
  | outside (happening : Happening)
  /-- The next visible job is handed out. -/
  | take
  /-- The job in hand is run. -/
  | run
  /-- The job in hand is forgotten if it succeeded, and otherwise requeued. -/
  | settle
  /-- The job in hand is marked as processed, and a view of the allocator is published. -/
  | finish

/-- Whether a stride is one of the worker or happens around it before the shutdown. -/
def Stride.Permitted : Stride → Prop
  | .outside happening => happening.Outside
  | _ => True

instance (stride : Stride) : Decidable stride.Permitted :=
  match stride with
  | .outside happening => inferInstanceAs (Decidable happening.Outside)
  | .take | .run | .settle | .finish => .isTrue trivial

/-- The worker amid its strides. -/
structure Execution where
  worker : Worker
  progress : Progress := .idle
  deriving DecidableEq

/-- What happens around the worker only adds to the lists of its queue. -/
theorem Worker.queue_after_outside (worker : Worker) {happening : Happening}
    (h : happening.Outside) :
    ∃ asked, (worker.after happening).jobs.queue = worker.jobs.queue.addAll asked := by
  cases happening with
  | put service => exact ⟨[.syncService service.id], rfl⟩
  | delete id =>
    simp only [Worker.after]
    split
    · exact ⟨[], rfl⟩
    · exact ⟨[.removeService id _], rfl⟩
  | setNodes nodes => exact ⟨[.pushConfig], rfl⟩
  | request job => exact ⟨[job], rfl⟩
  | turn => exact h.elim
  | execute job => exact h.elim
  | reach moment => exact ⟨_, rfl⟩
  | expire entry =>
    by_cases hentry : entry ∈ worker.jobs.delayed
    · refine ⟨[entry.item], ?_⟩
      simp [Worker.after, DelayQueue.expire, hentry, WorkQueue.addAll]
    · refine ⟨[], ?_⟩
      simp [Worker.after, DelayQueue.expire, hentry, WorkQueue.addAll]
  | shutDown => exact h.elim
  | _ => exact ⟨[], rfl⟩

namespace Execution

/-- The worker after a stride. A stride that is not the next one does nothing. -/
def after (execution : Execution) : Stride → Execution
  | .outside happening => { execution with worker := execution.worker.after happening }
  | .take =>
    match execution.progress, execution.worker.jobs.take with
    | .idle, some (job, rest) =>
      { worker := execution.worker.withJobs rest, progress := .handed job }
    | _, _ => execution
  | .run =>
    match execution.progress with
    | .handed job =>
      { worker := (execution.worker.run job).1
        progress := .ran job (execution.worker.run job).2 }
    | _ => execution
  | .settle =>
    match execution.progress with
    | .ran job failure =>
      { worker := Worker.settle (execution.worker, failure) job, progress := .settled job }
    | _ => execution
  | .finish =>
    match execution.progress with
    | .settled job =>
      { worker :=
          ({ execution.worker with jobs := execution.worker.jobs.done job } : Worker).publish }
    | _ => execution

/-- The worker after a history of strides, which lists the latest first. -/
def through (start : Execution) : List Stride → Execution
  | [] => start
  | stride :: earlier => (start.through earlier).after stride

/-- A history that continues an earlier one. -/
theorem through_append (start : Execution) (later earlier : List Stride) :
    start.through (later ++ earlier) = (start.through earlier).through later := by
  induction later with
  | nil => rfl
  | cons stride later ih => exact congrArg (·.after stride) ih

/-- Strides that nothing comes between are a step of the worker. -/
theorem through_step (worker : Worker) :
    (Execution.mk worker .idle).through [.finish, .settle, .run, .take] =
      { worker := worker.step.getD worker } := by
  simp only [through, after, Worker.step]
  cases worker.jobs.take with
  | none => rfl
  | some taken => rfl

/-- The job that is handed out at a stride. -/
def hands (execution : Execution) : Stride → Option Job
  | .take => if execution.progress = .idle then execution.worker.jobs.take.map Prod.fst else none
  | _ => none

/-- The attempt that is settled at a stride: the job, and why it failed, if it did. -/
def verdict (execution : Execution) : Stride → Option (Job × Option JobError)
  | .settle =>
    match execution.progress with
    | .ran job failure => some (job, failure)
    | _ => none
  | _ => none

/-- Whether a job was handed out in a history. -/
def HandedOut (start : Execution) (job : Job) : List Stride → Prop
  | [] => False
  | stride :: earlier =>
    start.HandedOut job earlier ∨ (start.through earlier).hands stride = some job

/-- Whether an attempt at a job that began in a history has succeeded in it. -/
def Succeeded (start : Execution) (job : Job) : List Stride → Prop
  | [] => False
  | stride :: earlier =>
    start.Succeeded job earlier ∨
      start.HandedOut job earlier ∧ (start.through earlier).verdict stride = some (job, none)

instance decidableHandedOut (start : Execution) (job : Job) :
    (history : List Stride) → Decidable (start.HandedOut job history)
  | [] => .isFalse not_false
  | stride :: earlier =>
    have := decidableHandedOut start job earlier
    inferInstanceAs
      (Decidable (start.HandedOut job earlier ∨ (start.through earlier).hands stride = some job))

instance decidableSucceeded (start : Execution) (job : Job) :
    (history : List Stride) → Decidable (start.Succeeded job history)
  | [] => .isFalse not_false
  | stride :: earlier =>
    have := decidableSucceeded start job earlier
    inferInstanceAs
      (Decidable (start.Succeeded job earlier ∨
        start.HandedOut job earlier ∧
          (start.through earlier).verdict stride = some (job, none)))

/-- How often the attempts at a job failed in a history since the last one that succeeded. -/
def failures (start : Execution) (job : Job) : List Stride → Nat
  | [] => 0
  | stride :: earlier =>
    match (start.through earlier).verdict stride with
    | some (settled, none) => if job = settled then 0 else start.failures job earlier
    | some (settled, some _) =>
      if job = settled then start.failures job earlier + 1 else start.failures job earlier
    | none => start.failures job earlier

/-- Whether a job is in sight: it is visible, or going to be at the end of its processing, or it is
attempted, or it waits for its delay. -/
def Sees (execution : Execution) (job : Job) : Prop :=
  job ∈ execution.worker.jobs.queue.visible ∨
    job ∈ execution.worker.jobs.queue.pending ∧ job ∈ execution.worker.jobs.queue.processing ∨
    execution.progress.attempted = some job ∨
    ∃ entry ∈ execution.worker.jobs.delayed, entry.item = job

/-- What a stride does. -/
inductive Moves (execution : Execution) : Stride → Execution → Prop where
  | stays {stride : Stride} (hhands : execution.hands stride = none)
      (hverdict : execution.verdict stride = none) : Moves execution stride execution
  | outside (happening : Happening) :
      Moves execution (.outside happening)
        { execution with worker := execution.worker.after happening }
  | take {job : Job} {rest : DelayQueue Job} (hidle : execution.progress = .idle)
      (htake : execution.worker.jobs.take = some (job, rest)) :
      Moves execution .take
        { worker := execution.worker.withJobs rest, progress := .handed job }
  | run {job : Job} (hhanded : execution.progress = .handed job) :
      Moves execution .run
        { worker := (execution.worker.run job).1
          progress := .ran job (execution.worker.run job).2 }
  | settle {job : Job} {failure : Option JobError} (hran : execution.progress = .ran job failure) :
      Moves execution .settle
        { worker := Worker.settle (execution.worker, failure) job, progress := .settled job }
  | finish {job : Job} (hsettled : execution.progress = .settled job) :
      Moves execution .finish
        { worker :=
            ({ execution.worker with jobs := execution.worker.jobs.done job } : Worker).publish }

/-- Every stride does nothing or what it is there for. -/
theorem moves (execution : Execution) (stride : Stride) :
    execution.Moves stride (execution.after stride) := by
  obtain ⟨worker, progress⟩ := execution
  cases stride with
  | outside happening => exact .outside happening
  | take =>
    by_cases hidle : progress = .idle
    · subst hidle
      cases htake : worker.jobs.take with
      | none =>
        simp only [after, htake]
        exact .stays (by simp [hands, htake]) rfl
      | some taken =>
        simp only [after, htake]
        exact .take rfl htake
    · have hstays : (Execution.mk worker progress).after .take = ⟨worker, progress⟩ := by
        cases progress with
        | idle => exact absurd rfl hidle
        | _ => rfl
      rw [hstays]
      exact .stays (if_neg hidle) rfl
  | run =>
    cases progress with
    | handed job => exact .run rfl
    | _ => exact .stays rfl rfl
  | settle =>
    cases progress with
    | ran job failure => exact .settle rfl
    | _ => exact .stays rfl rfl
  | finish =>
    cases progress with
    | settled job => exact .finish rfl
    | _ => exact .stays rfl rfl

/-- The queue accepts jobs, its pending jobs are in view, and the job in hand is the only one in
processing. -/
structure Orderly (execution : Execution) : Prop where
  accepting : execution.worker.jobs.queue.shuttingDown = false
  sound : execution.worker.jobs.queue.Sound
  inHand : execution.worker.jobs.queue.processing = execution.progress.job?.toList

/-- Settling an attempt lets every job wait. -/
theorem extends_settle (worker : Worker) (job : Job) (failure : Option JobError) :
    worker.jobs.Extends (Worker.settle (worker, failure) job).jobs := by
  rw [Worker.jobs_settle]
  split
  · exact worker.jobs.extends_forget job
  · exact worker.jobs.extends_requeue job

/-- A run lets every job wait. -/
theorem extends_run (worker : Worker) (job : Job) :
    worker.jobs.Extends (worker.run job).1.jobs := by
  obtain ⟨asked, hasked, -⟩ := (worker.frame_run job).asks
  rw [hasked]
  exact worker.jobs.extends_addAll asked

/-- Whatever happens before the shutdown, the queue stays in order. -/
theorem Orderly.after {execution : Execution} (h : execution.Orderly) {stride : Stride}
    (hstride : stride.Permitted) : (execution.after stride).Orderly := by
  have hmoves := execution.moves stride
  generalize execution.after stride = next at hmoves
  obtain ⟨haccepting, hsound, hinHand⟩ := h
  cases hmoves with
  | stays => exact ⟨haccepting, hsound, hinHand⟩
  | outside happening =>
    have hextends := execution.worker.extends_outside hstride
    obtain ⟨asked, hqueue⟩ := execution.worker.queue_after_outside hstride
    refine ⟨hextends.shuttingDown.trans haccepting, hextends.sound hsound, ?_⟩
    rw [hqueue, WorkQueue.processing_addAll, hinHand]
  | @take job rest hidle htake =>
    obtain ⟨hopen, hkept⟩ := DelayQueue.sound_take htake
    refine ⟨hopen.trans haccepting, hkept hsound, ?_⟩
    obtain ⟨inner, hinner, rfl⟩ := DelayQueue.take_eq_some htake
    obtain ⟨others, -, rfl⟩ := WorkQueue.take_eq_some hinner
    change execution.worker.jobs.queue.processing.insert job = [job]
    rw [hinHand, hidle]
    rfl
  | @run job hhanded =>
    have hextends := extends_run execution.worker job
    refine ⟨hextends.shuttingDown.trans haccepting, hextends.sound hsound, ?_⟩
    obtain ⟨asked, hasked, -⟩ := (execution.worker.frame_run job).asks
    rw [hhanded] at hinHand
    rw [hasked]
    exact (WorkQueue.processing_addAll _ asked).trans hinHand
  | @settle job failure hran =>
    have hextends := extends_settle execution.worker job failure
    refine ⟨hextends.shuttingDown.trans haccepting, hextends.sound hsound, ?_⟩
    rw [hran] at hinHand
    refine Eq.trans ?_ hinHand
    rw [Worker.jobs_settle]
    split
    · rfl
    · rw [DelayQueue.queue_requeue _ haccepting, WorkQueue.processing_addAll]
      rfl
  | @finish job hsettled =>
    have hextends := execution.worker.jobs.extends_done job
    refine ⟨hextends.shuttingDown.trans haccepting, hextends.sound hsound, ?_⟩
    refine (execution.worker.jobs.queue.processing_done job).trans ?_
    rw [hinHand, hsettled]
    exact List.erase_cons_head job []

/-- The job that an attempt concerns waits again if the attempt failed. -/
theorem waits_settle {worker : Worker} (hopen : worker.jobs.queue.shuttingDown = false) (job : Job)
    {failure : Option JobError} (hfailure : failure ≠ none) :
    (Worker.settle (worker, failure) job).jobs.Waits job := by
  rw [Worker.jobs_settle, if_neg hfailure]
  exact DelayQueue.waits_requeue hopen job

/-- Whether a job waits, or an attempt at it that began in the history is under way, or one has
succeeded. -/
def Pursued (start : Execution) (job : Job) (history : List Stride) : Prop :=
  start.Succeeded job history ∨ (start.through history).worker.jobs.Waits job ∨
    start.HandedOut job history ∧ (start.through history).progress.attempted = some job

/-- A job that is pursued stays so until an attempt at it succeeds. -/
theorem Pursued.after {start : Execution} {job : Job} {history : List Stride}
    (h : start.Pursued job history) (horderly : (start.through history).Orderly) {stride : Stride}
    (hstride : stride.Permitted) : start.Pursued job (stride :: history) := by
  rcases h with hsucceeded | hpursued
  · exact Or.inl (Or.inl hsucceeded)
  have hmoves := (start.through history).moves stride
  have hopen := horderly.accepting
  unfold Pursued
  change _ ∨ ((start.through history).after stride).worker.jobs.Waits job ∨
    _ ∧ ((start.through history).after stride).progress.attempted = some job
  generalize (start.through history).after stride = next at hmoves ⊢
  cases hmoves with
  | stays =>
    exact Or.inr (hpursued.imp id fun hattempt => ⟨Or.inl hattempt.1, hattempt.2⟩)
  | outside happening =>
    refine Or.inr (hpursued.imp ?_ fun hattempt => ⟨Or.inl hattempt.1, hattempt.2⟩)
    exact ((start.through history).worker.extends_outside hstride).waits hopen job
  | @take taken rest hidle htake =>
    rcases hpursued with hwaits | ⟨-, hattempt⟩
    · by_cases hsame : job = taken
      · subst hsame
        refine Or.inr (Or.inr ⟨Or.inr ?_, rfl⟩)
        simp [hands, hidle, htake]
      · exact Or.inr (Or.inl (DelayQueue.waits_take htake hwaits hsame))
    · rw [hidle] at hattempt
      cases hattempt
  | @run running hhanded =>
    refine Or.inr (hpursued.imp ?_ fun hattempt => ⟨Or.inl hattempt.1, ?_⟩)
    · exact (extends_run (start.through history).worker running).waits hopen job
    · have hattempted := hattempt.2
      rw [hhanded] at hattempted
      exact hattempted
  | @settle settled failure hran =>
    rcases hpursued with hwaits | ⟨hhandedOut, hattempt⟩
    · exact Or.inr (Or.inl ((extends_settle _ settled failure).waits hopen job hwaits))
    · rw [hran] at hattempt
      cases hattempt
      by_cases hfailure : failure = none
      · subst hfailure
        exact Or.inl (Or.inr ⟨hhandedOut, by simp [verdict, hran]⟩)
      · exact Or.inr (Or.inl (waits_settle hopen job hfailure))
  | @finish finished hsettled =>
    rcases hpursued with hwaits | ⟨-, hattempt⟩
    · exact Or.inr (Or.inl ((DelayQueue.extends_done _ finished).waits hopen job hwaits))
    · rw [hsettled] at hattempt
      cases hattempt

/-- Queues with the same counts. -/
theorem requeueCount_of_requeues {before after : DelayQueue Job}
    (h : after.queue.requeues = before.queue.requeues) (job : Job) :
    after.requeueCount job = before.requeueCount job := by
  unfold DelayQueue.requeueCount WorkQueue.requeueCount
  rw [h]

/-- The requeues of a job after the settling of an attempt: an attempt at another job does not
count. -/
theorem requeueCount_settle {worker : Worker} (hopen : worker.jobs.queue.shuttingDown = false)
    (settled job : Job) (failure : Option JobError) :
    (Worker.settle (worker, failure) settled).jobs.requeueCount job =
      if job = settled then
        if failure = none then 0 else min (worker.jobs.requeueCount settled + 1) requeueLimit
      else worker.jobs.requeueCount job := by
  rw [Worker.jobs_settle]
  split
  · exact worker.jobs.queue.requeueCount_forget settled job
  · have hcounted : (worker.jobs.requeue settled).queue.requeues =
        (worker.jobs.queue.countRequeue settled).requeues := by
      rw [DelayQueue.queue_requeue _ hopen, WorkQueue.requeues_addAll]
    unfold DelayQueue.requeueCount WorkQueue.requeueCount
    rw [hcounted]
    exact worker.jobs.queue.requeueCount_countRequeue settled job

/-- Whether the requeues of each job count its failures since the last success, up to the limit. -/
def Counted (start : Execution) (history : List Stride) : Prop :=
  ∀ job, (start.through history).worker.jobs.requeueCount job =
    min (start.failures job history) requeueLimit

/-- Whatever happens before the shutdown, the requeues count the failures. -/
theorem Counted.after {start : Execution} {history : List Stride} (h : start.Counted history)
    (horderly : (start.through history).Orderly) {stride : Stride} (hstride : stride.Permitted) :
    start.Counted (stride :: history) := by
  intro job
  have hcount := h job
  have hmoves := (start.through history).moves stride
  change ((start.through history).after stride).worker.jobs.requeueCount job = _
  -- A stride that settles nothing moves neither side.
  have hstays : (start.through history).verdict stride = none →
      ((start.through history).after stride).worker.jobs.queue.requeues =
        (start.through history).worker.jobs.queue.requeues →
      ((start.through history).after stride).worker.jobs.requeueCount job =
        min (start.failures job (stride :: history)) requeueLimit := by
    intro hverdict hrequeues
    have hfailures : start.failures job (stride :: history) = start.failures job history := by
      rw [failures, hverdict]
    rw [requeueCount_of_requeues hrequeues, hfailures, hcount]
  generalize (start.through history).after stride = next at hmoves hstays ⊢
  cases hmoves with
  | stays _ hverdict => exact hstays hverdict rfl
  | outside happening =>
    obtain ⟨asked, hqueue⟩ := (start.through history).worker.queue_after_outside hstride
    refine hstays rfl ?_
    rw [hqueue, WorkQueue.requeues_addAll]
  | @take taken rest hidle htake =>
    obtain ⟨inner, hinner, rfl⟩ := DelayQueue.take_eq_some htake
    obtain ⟨others, -, rfl⟩ := WorkQueue.take_eq_some hinner
    exact hstays rfl rfl
  | @run running hhanded =>
    obtain ⟨asked, hasked, -⟩ := ((start.through history).worker.frame_run running).asks
    refine hstays rfl ?_
    rw [hasked]
    exact WorkQueue.requeues_addAll _ asked
  | @settle settled failure hran =>
    have hverdict : (start.through history).verdict .settle = some (settled, failure) := by
      simp [verdict, hran]
    rw [requeueCount_settle horderly.accepting, failures, hverdict]
    by_cases hsame : job = settled
    · subst hsame
      cases failure with
      | none => simp
      | some error =>
        simp only [if_true, hcount]
        rw [if_neg (Option.some_ne_none error)]
        omega
    · cases failure with
      | none => simp only [if_neg hsame, hcount]
      | some error => simp only [if_neg hsame, hcount]
  | @finish finished hsettled =>
    exact hstays rfl ((start.through history).worker.jobs.queue.requeues_done finished)

/-- What is pursued and in order is in sight, unless an attempt has succeeded. -/
theorem Orderly.sees {execution : Execution} (h : execution.Orderly) {job : Job}
    (hwaits : execution.worker.jobs.Waits job ∨ execution.progress.attempted = some job) :
    execution.Sees job := by
  rcases hwaits with (hpending | hdelayed) | hattempted
  · rcases h.sound job hpending with hvisible | hprocessing
    · exact Or.inl hvisible
    · exact Or.inr (Or.inl ⟨hpending, hprocessing⟩)
  · exact Or.inr (Or.inr (Or.inr hdelayed))
  · exact Or.inr (Or.inr (Or.inl hattempted))

/-- Throughout a history before the shutdown the queue is in order, and the requeues count the
failures. -/
theorem orderly_counted {start : Execution} {backoff : Backoff}
    (hjobs : start.worker.jobs = .fresh backoff) (hidle : start.progress = .idle)
    {history : List Stride} (hhistory : ∀ stride ∈ history, stride.Permitted) :
    (start.through history).Orderly ∧ start.Counted history := by
  induction history with
  | nil =>
    refine ⟨⟨?_, ?_, ?_⟩, fun job => ?_⟩
    · rw [through, hjobs]
      rfl
    · rw [through, hjobs]
      exact WorkQueue.coherent_empty.sound
    · rw [through, hjobs, hidle]
      rfl
    · rw [through, hjobs]
      rfl
  | cons stride earlier ih =>
    obtain ⟨horderly, hcounted⟩ :=
      ih fun other hother => hhistory other (List.mem_cons_of_mem _ hother)
    have hstride := hhistory stride List.mem_cons_self
    exact ⟨horderly.after hstride, hcounted.after horderly hstride⟩

/-- A job that waits is pursued from then on. -/
theorem pursued_of_waits {start : Execution} (horderly : start.Orderly) {job : Job}
    (hwaits : start.worker.jobs.Waits job) {later : List Stride}
    (hlater : ∀ stride ∈ later, stride.Permitted) : start.Pursued job later := by
  have hall : (start.through later).Orderly ∧ start.Pursued job later := by
    induction later with
    | nil => exact ⟨horderly, Or.inr (Or.inl hwaits)⟩
    | cons stride earlier ih =>
      obtain ⟨hearlier, hpursued⟩ :=
        ih fun other hother => hlater other (List.mem_cons_of_mem _ hother)
      have hstride := hlater stride List.mem_cons_self
      exact ⟨hearlier.after hstride, hpursued.after hearlier hstride⟩
  exact hall.2

/-- No job is lost before the shutdown. A job that was accepted stays in sight until an attempt at
it that began afterwards has succeeded, whatever fails meanwhile and whatever happens around the
worker. The requeues of each job count its failures since the last success. The queue accepts all
jobs that it is asked for, and nothing but the job in hand is in processing. -/
theorem no_job_lost {start : Execution} {backoff : Backoff}
    (hjobs : start.worker.jobs = .fresh backoff) (hidle : start.progress = .idle)
    {history : List Stride} (hhistory : ∀ stride ∈ history, stride.Permitted) :
    (∀ later earlier job, history = later ++ earlier →
        (start.through earlier).worker.jobs.Waits job →
          ¬(start.through earlier).Succeeded job later → (start.through history).Sees job) ∧
      (∀ job, (start.through history).worker.jobs.requeueCount job =
        min (start.failures job history) requeueLimit) ∧
      (∀ asked, ∀ job ∈ asked, ((start.through history).worker.jobs.addAll asked).Waits job) ∧
      (∀ job, ((start.through history).worker.jobs.requeue job).Waits job) ∧
      (start.through history).worker.jobs.queue.processing =
        (start.through history).progress.job?.toList := by
  obtain ⟨horderly, hcounted⟩ := orderly_counted hjobs hidle hhistory
  have hopen := horderly.accepting
  refine ⟨?_, hcounted, fun asked job hjob => DelayQueue.waits_addAll hopen hjob,
    DelayQueue.waits_requeue hopen, horderly.inHand⟩
  rintro later earlier job rfl hwaits hsucceeded
  have hbefore := (orderly_counted hjobs hidle fun stride hstride =>
    hhistory stride (List.mem_append_right later hstride)).1
  have hpursued := pursued_of_waits hbefore hwaits fun stride hstride =>
    hhistory stride (List.mem_append_left earlier hstride)
  rw [through_append] at horderly ⊢
  exact horderly.sees ((hpursued.resolve_left hsucceeded).imp id And.right)

/-- The sample worker before its first stride. -/
def sample : Execution :=
  { worker := Worker.sample }

/-- A user creates a service. -/
def creation : Stride :=
  .outside (.put (.loadBalancer ⟨"ns", "web"⟩ []))

/-- The store refuses to be written, so that the synchronisation of the new service fails. It is
asked for once more while it is run, and comes up again after its processing. -/
def faltering : List Stride :=
  [.run, .take, .finish, .settle, .run, .outside (.request (.syncService ⟨"ns", "web"⟩)), .take,
    .outside (.failWrites true)]

/-- The synchronisation is still in sight, and one failure is counted. -/
theorem no_job_lost_faltering :
    sample.worker.jobs = .fresh .standard ∧ sample.progress = .idle ∧
      (∀ stride ∈ faltering ++ [creation], stride.Permitted) ∧
      (sample.through (faltering ++ [creation])).Sees (.syncService ⟨"ns", "web"⟩) ∧
      (sample.through (faltering ++ [creation])).worker.jobs.requeueCount
        (.syncService ⟨"ns", "web"⟩) = 1 := by
  have hjobs : sample.worker.jobs = .fresh .standard := rfl
  have hpermitted : ∀ stride ∈ faltering ++ [creation], stride.Permitted := by
    decide +kernel
  obtain ⟨hseen, hcounted, -⟩ := no_job_lost hjobs rfl hpermitted
  refine ⟨hjobs, rfl, hpermitted, hseen faltering [creation] _ rfl (Or.inl ?_) ?_, ?_⟩
  · decide +kernel
  · decide +kernel
  · rw [hcounted]
    decide +kernel

end Execution

end Balancer
