import Mathlib
import Balancer.Controller
import Balancer.Proofs.WorkQueue.Provenance
import Balancer.Proofs.Worker.Cleaning
import Balancer.Proofs.Worker.History

/-!
# The cleanup barrier

What happens to a controller and around it, one thing at a time: the run begins, the worker executes
a job, the clock moves on, the shutdown signal changes and the worker closes its queue and is gone.
Users, producers and the surroundings may do anything in between, but only the periodic timer asks
for the removal of the barrier.

So until a period has passed since the run began nobody has lifted the barrier, and no job of the
worker deletes a port.
-/

namespace Balancer

/-- Something that happens to a controller or around it. -/
inductive Occurrence where
  /-- Users and producers act, or the surroundings of the worker change. -/
  | around (happening : Happening)
  /-- The shutdown signal changes. -/
  | signal (signal : ShutdownSignal)
  /-- The run begins, and the periodic timer with it. -/
  | start
  /-- The worker executes the next visible job. -/
  | work
  /-- The clock moves to a moment. -/
  | reach (moment : Nat)
  /-- The worker accepts no further jobs. -/
  | close
  /-- The worker is gone. -/
  | finish

namespace Controller

/-- The controller after something happened. -/
def after (controller : Controller) : Occurrence → Controller
  | .around happening => { controller with worker := controller.worker.after happening }
  | .signal signal => { controller with signal }
  | .start => controller.startTimer
  | .work => { controller with worker := controller.worker.step.getD controller.worker }
  | .reach moment => controller.reach moment
  | .close =>
    { controller with
      worker := { controller.worker with jobs := controller.worker.jobs.shutDown } }
  | .finish => { controller with finished := true }

/-- The controller after a history, which lists what happened with the latest first. -/
def through (start : Controller) : List Occurrence → Controller
  | [] => start
  | occurrence :: earlier => (start.through earlier).after occurrence

/-- The moment when the run began in a history. -/
def startedAt (start : Controller) : List Occurrence → Option Nat
  | [] => none
  | .start :: earlier =>
    some ((start.startedAt earlier).getD (start.through earlier).worker.jobs.clock)
  | _ :: earlier => start.startedAt earlier

/-- Whether something may happen to a controller: the clock moves forward, and moves only with the
periodic timer; the worker executes jobs from its queue; and no producer asks for the removal of the
barrier. -/
def Permits (controller : Controller) : Occurrence → Prop
  | .around (.request job) => job ≠ .removeCleanupBarrier
  | .around (.reach _) => False
  | .around happening => happening.Outside
  | .reach moment => controller.worker.jobs.clock ≤ moment
  | _ => True

/-- Everything in a history was permitted when it happened. -/
def Permitted (start : Controller) : List Occurrence → Prop
  | [] => True
  | occurrence :: earlier => start.Permitted earlier ∧ (start.through earlier).Permits occurrence

instance (controller : Controller) (occurrence : Occurrence) :
    Decidable (controller.Permits occurrence) :=
  match occurrence with
  | .around (.request job) => inferInstanceAs (Decidable (job ≠ .removeCleanupBarrier))
  | .around (.reach _) | .around .turn | .around (.execute _) | .around .shutDown =>
    .isFalse not_false
  | .around (.put _) | .around (.delete _) | .around (.setNodes _) | .around (.expire _) =>
    .isTrue trivial
  | .around (.failReads _) | .around (.failWrites _) | .around (.failPushes _) => .isTrue trivial
  | .around (.changePool _) => .isTrue trivial
  | .reach moment => inferInstanceAs (Decidable (controller.worker.jobs.clock ≤ moment))
  | .signal _ | .start | .work | .close | .finish => .isTrue trivial

instance decidablePermitted (start : Controller) :
    (history : List Occurrence) → Decidable (start.Permitted history)
  | [] => .isTrue trivial
  | occurrence :: earlier =>
    have := decidablePermitted start earlier
    inferInstanceAs
      (Decidable (start.Permitted earlier ∧ (start.through earlier).Permits occurrence))

end Controller

namespace Worker

variable {controller : Controller} {worker : Worker}

/-- The barrier is in place, and nobody is about to lift it. -/
structure Barred (worker : Worker) : Prop where
  allowed : worker.cleanupsAllowed = false
  lacks : worker.jobs.Lacks .removeCleanupBarrier

/-- Settling a job does not move the clock. -/
theorem clock_settle (outcome : Outcome) (job : Job) :
    (settle outcome job).jobs.clock = outcome.1.jobs.clock := by
  obtain ⟨after, failure⟩ := outcome
  rw [jobs_settle]
  split
  · rfl
  · simp only [DelayQueue.requeue]
    repeat' split
    all_goals rfl

/-- Settling a job shows and delays no other job. -/
theorem lacks_settle {outcome : Outcome} {job other : Job} (h : outcome.1.jobs.Lacks other)
    (hother : other ≠ job) : (settle outcome job).jobs.Lacks other := by
  obtain ⟨after, failure⟩ := outcome
  rw [jobs_settle]
  split
  · exact h.forget job
  · exact h.requeue hother

/-- The execution of a job does not move the clock. -/
theorem clock_execute (worker : Worker) (job : Job) :
    (worker.execute job).jobs.clock = worker.jobs.clock := by
  obtain ⟨asked, hasked, -⟩ := (worker.frame_run job).asks
  refine (clock_settle (worker.run job) job).trans ?_
  rw [hasked]
  rfl

/-- The execution of any other job than the removal of the barrier leaves the barrier in place. -/
theorem Barred.execute (h : worker.Barred) {job : Job} (hjob : job ≠ .removeCleanupBarrier) :
    (worker.execute job).Barred := by
  have hframe := worker.frame_run job
  obtain ⟨asked, hasked, hbarrier⟩ := hframe.asks
  have hrun : (worker.run job).1.jobs.Lacks .removeCleanupBarrier := by
    rw [hasked]
    exact h.lacks.addAll hbarrier
  refine ⟨?_, (lacks_settle hrun (Ne.symm hjob)).done job⟩
  obtain ⟨jobs, published, history, heq, -⟩ := worker.execute_eq job
  rw [heq]
  change (worker.run job).1.cleanupsAllowed = false
  rw [hframe.allowed, h.allowed, decide_eq_false hjob]
  rfl

/-- A step executes another job than the removal of the barrier, which nobody has asked for. -/
theorem Barred.step (h : worker.Barred) : (worker.step.getD worker).Barred := by
  cases hstep : worker.step with
  | none => exact h
  | some next =>
    obtain ⟨job, rest, htake, rfl⟩ := step_eq_some hstep
    obtain ⟨hjob, hlacks⟩ := h.lacks.take htake
    have hhanded : (worker.withJobs rest).Barred := ⟨h.allowed, hlacks⟩
    exact hhanded.execute hjob

/-- A step does not move the clock. -/
theorem clock_step (worker : Worker) :
    (worker.step.getD worker).jobs.clock = worker.jobs.clock := by
  cases hstep : worker.step with
  | none => rfl
  | some next =>
    obtain ⟨job, rest, htake, rfl⟩ := step_eq_some hstep
    obtain ⟨inner, -, rfl⟩ := DelayQueue.take_eq_some htake
    exact clock_execute _ job

/-- Only a step that runs a cleanup takes a port from the pool, and not behind the barrier. -/
theorem mem_ports_step_of_barrier (h : worker.cleanupsAllowed = false) {portId : String}
    (hport : portId ∈ worker.pool.ports) : portId ∈ (worker.step.getD worker).pool.ports := by
  cases hstep : worker.step with
  | none => exact hport
  | some next =>
    obtain ⟨job, rest, htake, rfl⟩ := step_eq_some hstep
    obtain ⟨jobs, published, history, heq, -⟩ := (worker.withJobs rest).execute_eq job
    rw [Option.getD_some, heq]
    change portId ∈ ((worker.withJobs rest).run job).1.pool.ports
    by_cases hjob : job = .cleanup
    · subst hjob
      have hbarred : (worker.withJobs rest).cleanupsAllowed = false := h
      rw [run_cleanup_of_barrier hbarred]
      exact hport
    · exact mem_ports_run_of_ne_cleanup hjob hport

/-- Users, producers and the surroundings leave the barrier in place and do not move the clock. -/
theorem Barred.around (h : worker.Barred) {happening : Happening}
    (hpermits : Controller.Permits controller (.around happening)) :
    (worker.after happening).Barred := by
  obtain ⟨hallowed, hlacks⟩ := h
  cases happening with
  | put service => exact ⟨hallowed, hlacks.add (by simp)⟩
  | delete id =>
    simp only [Worker.after]
    split
    · exact ⟨hallowed, hlacks⟩
    · exact ⟨hallowed, hlacks.add (by simp)⟩
  | setNodes nodes => exact ⟨hallowed, hlacks.add (by simp)⟩
  | request job => exact ⟨hallowed, hlacks.add (Ne.symm hpermits)⟩
  | turn => exact hpermits.elim
  | execute job => exact hpermits.elim
  | reach moment => exact hpermits.elim
  | expire entry => exact ⟨hallowed, hlacks.expire entry⟩
  | shutDown => exact hpermits.elim
  | _ => exact ⟨hallowed, hlacks⟩

end Worker

namespace Controller

variable {start : Controller} {history : List Occurrence}

/-- Users, producers and the surroundings do not move the clock. -/
theorem clock_around {controller : Controller} {happening : Happening}
    (hpermits : controller.Permits (.around happening)) :
    (controller.worker.after happening).jobs.clock = controller.worker.jobs.clock := by
  cases happening with
  | delete id =>
    simp only [Worker.after]
    split <;> rfl
  | turn => exact hpermits.elim
  | execute job => exact hpermits.elim
  | reach moment => exact hpermits.elim
  | expire entry =>
    simp only [Worker.after, DelayQueue.expire]
    split <;> rfl
  | _ => rfl

/-- What the periodic timer guards in a history: until it asks for the removal of the barrier, the
barrier is in place and the timer is set to one period after the beginning of the run, and when it
has asked, a period has passed. -/
structure Guarded (start : Controller) (history : List Occurrence) : Prop where
  period : (start.through history).period = start.period
  before : (start.through history).barrierRequested = false →
    (start.through history).worker.Barred ∧
      (start.through history).nextTick = (start.startedAt history).map (· + start.period)
  after : (start.through history).barrierRequested = true →
    ∃ moment, start.startedAt history = some moment ∧
      moment + start.period ≤ (start.through history).worker.jobs.clock

/-- What changes neither the timer nor the beginning of the run, moves the clock only forward and
leaves the barrier in place keeps the guard. -/
theorem Guarded.of_eq (h : start.Guarded history) {occurrence : Occurrence}
    (hperiod : (start.through (occurrence :: history)).period = (start.through history).period)
    (hrequested : (start.through (occurrence :: history)).barrierRequested =
      (start.through history).barrierRequested)
    (htick : (start.through (occurrence :: history)).nextTick = (start.through history).nextTick)
    (hstarted : start.startedAt (occurrence :: history) = start.startedAt history)
    (hclock : (start.through history).worker.jobs.clock ≤
      (start.through (occurrence :: history)).worker.jobs.clock)
    (hbarred : (start.through history).worker.Barred →
      (start.through (occurrence :: history)).worker.Barred) :
    start.Guarded (occurrence :: history) := by
  refine ⟨hperiod.trans h.period, fun hpending => ?_, fun hdone => ?_⟩
  · obtain ⟨hbefore, hnext⟩ := h.before (hrequested.symm.trans hpending)
    exact ⟨hbarred hbefore, by rw [htick, hstarted, hnext]⟩
  · obtain ⟨moment, hmoment, hpassed⟩ := h.after (hrequested.symm.trans hdone)
    exact ⟨moment, hstarted.trans hmoment, hpassed.trans hclock⟩

/-- The beginning of the run sets the timer, once. -/
theorem Guarded.begin (h : start.Guarded history) : start.Guarded (.start :: history) := by
  have hworker : (start.through (.start :: history)).worker = (start.through history).worker := by
    simp only [through, Controller.after, startTimer]
    split <;> rfl
  have hrequested : (start.through (.start :: history)).barrierRequested =
      (start.through history).barrierRequested := by
    simp only [through, Controller.after, startTimer]
    split <;> rfl
  refine ⟨?_, fun hpending => ?_, fun hdone => ?_⟩
  · rw [← h.period]
    simp only [through, Controller.after, startTimer]
    split <;> rfl
  · obtain ⟨hbarred, hnext⟩ := h.before (hrequested.symm.trans hpending)
    refine ⟨hworker ▸ hbarred, ?_⟩
    simp only [through, Controller.after, startTimer, startedAt]
    cases hstarted : start.startedAt history with
    | none =>
      rw [hstarted] at hnext
      simp [hnext, h.period]
    | some moment =>
      rw [hstarted] at hnext
      simp [hnext]
  · obtain ⟨moment, hmoment, hpassed⟩ := h.after (hrequested.symm.trans hdone)
    refine ⟨moment, by simp [startedAt, hmoment], ?_⟩
    rwa [hworker]

/-- The clock reaches a moment: the timer fires for the first time when a period has passed since
the beginning of the run. -/
theorem Guarded.reach (h : start.Guarded history) {moment : Nat}
    (hforward : (start.through history).worker.jobs.clock ≤ moment) :
    start.Guarded (.reach moment :: history) := by
  by_cases hticks : (start.through history).ticksAt moment = true
  · have hnext : (start.through history).nextTick = some moment := by
      simp only [ticksAt, Bool.and_eq_true, decide_eq_true_eq] at hticks
      exact hticks.1
    have hafter : start.through (.reach moment :: history) =
        (start.through history).reach moment := rfl
    simp only [Controller.reach, if_pos hticks] at hafter
    refine ⟨by rw [hafter, ← h.period], fun hpending => ?_, fun _ => ?_⟩
    · rw [hafter] at hpending
      cases hpending
    · rw [hafter]
      change ∃ began, start.startedAt history = some began ∧ began + start.period ≤ moment
      cases hrequested : (start.through history).barrierRequested with
      | true =>
        obtain ⟨began, hbegan, hpassed⟩ := h.after hrequested
        exact ⟨began, hbegan, hpassed.trans hforward⟩
      | false =>
        obtain ⟨-, hset⟩ := h.before hrequested
        rw [hnext] at hset
        obtain ⟨began, hbegan, heq⟩ := Option.map_eq_some_iff.mp hset.symm
        exact ⟨began, hbegan, heq.le⟩
  · have hafter : start.through (.reach moment :: history) =
        (start.through history).reach moment := rfl
    simp only [Controller.reach, if_neg hticks] at hafter
    refine h.of_eq ?_ ?_ ?_ rfl ?_ fun hbarred => ?_
    · rw [hafter]
    · rw [hafter]
    · rw [hafter]
    · rw [hafter]
      exact hforward
    · rw [hafter]
      exact ⟨hbarred.allowed, hbarred.lacks.reach moment⟩

/-- Whatever is permitted keeps the guard. -/
theorem Guarded.cons (h : start.Guarded history) {occurrence : Occurrence}
    (hpermits : (start.through history).Permits occurrence) :
    start.Guarded (occurrence :: history) := by
  cases occurrence with
  | around happening =>
    exact h.of_eq rfl rfl rfl rfl (clock_around hpermits).ge fun hbarred => hbarred.around hpermits
  | signal signal => exact h.of_eq rfl rfl rfl rfl le_rfl id
  | start => exact h.begin
  | work =>
    exact h.of_eq rfl rfl rfl rfl (Worker.clock_step _).ge fun hbarred => hbarred.step
  | reach moment => exact h.reach hpermits
  | close =>
    exact h.of_eq rfl rfl rfl rfl le_rfl fun hbarred => ⟨hbarred.allowed, hbarred.lacks.shutDown⟩
  | finish => exact h.of_eq rfl rfl rfl rfl le_rfl id

/-- The periodic timer guards every history of a new controller. -/
theorem guarded_create (config : Config) (cluster : Cluster) (pool : Pool) (pusher : Pusher)
    {history : List Occurrence} (h : (create config cluster pool pusher).Permitted history) :
    (create config cluster pool pusher).Guarded history := by
  induction history with
  | nil =>
    refine ⟨rfl, fun _ => ⟨⟨rfl, DelayQueue.lacks_fresh _ _⟩, rfl⟩, fun hdone => ?_⟩
    cases hdone
  | cons occurrence earlier ih => exact (ih h.1).cons h.2

/-- The barrier holds and a cleanup is exact. Unless a producer asks for the removal of the barrier,
the worker of a new controller takes no port from the pool before a period has passed since the run
began. And in whatever state a worker is, a cleanup fails and does nothing with the barrier in
place, and when it succeeds it has deleted exactly the ports without allocations; no other job
deletes a port. -/
theorem barrier_holds (config : Config) (cluster : Cluster) (pool : Pool) (pusher : Pusher)
    {history : List Occurrence} (h : (create config cluster pool pusher).Permitted history) :
    (∀ portId ∈ ((create config cluster pool pusher).through history).worker.pool.ports,
        portId ∉
          ((create config cluster pool pusher).through (.work :: history)).worker.pool.ports →
          ∃ moment, (create config cluster pool pusher).startedAt history = some moment ∧
            moment + config.cleanupSeconds * 1000 ≤
              ((create config cluster pool pusher).through history).worker.jobs.clock) ∧
      ∀ worker : Worker,
        (worker.cleanupsAllowed = false → worker.run .cleanup = (worker, some .barrierActive)) ∧
        ((worker.run .cleanup).2 = none → worker.Cleaned (worker.run .cleanup).1) ∧
        ∀ job ≠ .cleanup, ∀ portId ∈ worker.pool.ports, portId ∈ (worker.run job).1.pool.ports := by
  refine ⟨fun portId hport hgone => ?_, fun worker => ⟨Worker.run_cleanup_of_barrier,
    Worker.cleaned_run_cleanup, fun job hjob portId => Worker.mem_ports_run_of_ne_cleanup hjob⟩⟩
  have hguarded := guarded_create config cluster pool pusher h
  refine hguarded.after ?_
  by_contra hpending
  have hbarred := (hguarded.before (Bool.not_eq_true _ ▸ hpending)).1
  exact hgone (Worker.mem_ports_step_of_barrier hbarred.allowed hport)

/-- Settings with a period of one second. -/
def sampleConfig : Config :=
  { cleanupSeconds := 1
    backoff := { policy := .standard, jitter := 0 }
    pool := .fixed []
    agents := { bases := [] }
    agentTimeoutMillis := 0 }

/-- A port that nobody uses is made, and a producer asks for a cleanup at once. It is tried twice in
vain, and is visible again behind the removal of the barrier when the timer fires. -/
def deferred : List Occurrence :=
  [.work, .reach 1000, .work, .reach 5, .work, .around (.request .cleanup),
    .around (.changePool .provision), .start]

/-- The cleanup that comes next deletes the port, one second after the beginning of the run. -/
theorem barrier_holds_deferred :
    (create sampleConfig {} .sample {}).Permitted deferred ∧
      "port-1" ∈ ((create sampleConfig {} .sample {}).through deferred).worker.pool.ports ∧
      "port-1" ∉
        ((create sampleConfig {} .sample {}).through (.work :: deferred)).worker.pool.ports ∧
      ∃ moment, (create sampleConfig {} .sample {}).startedAt deferred = some moment ∧
        moment + 1000 ≤
          ((create sampleConfig {} .sample {}).through deferred).worker.jobs.clock := by
  have hpermitted : (create sampleConfig {} .sample {}).Permitted deferred := by
    decide +kernel
  have hport : "port-1" ∈
      ((create sampleConfig {} .sample {}).through deferred).worker.pool.ports := by
    decide +kernel
  have hgone : "port-1" ∉
      ((create sampleConfig {} .sample {}).through (.work :: deferred)).worker.pool.ports := by
    decide +kernel
  refine ⟨hpermitted, hport, hgone, ?_⟩
  exact (barrier_holds sampleConfig {} .sample {} hpermitted).1 "port-1" hport hgone

end Controller

end Balancer
