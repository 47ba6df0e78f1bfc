import Mathlib
import Balancer.Proofs.Controller.Barrier

/-!
# What a controller does by itself

When a controller acts, and when it lets time pass, nothing happens to it but single occurrences
that are permitted: the run begins, the worker executes visible jobs, the clock moves forward to the
next moment when something is due, and at the shutdown signal the worker closes its queue, executes
the visible jobs and is gone. So whatever holds of all permitted histories holds of every
controller.

The clock moves forward because what is delayed is due later than now, and so is the timer.
-/

namespace Balancer

namespace Controller

variable {controller : Controller}

/-- A history that continues an earlier one. -/
theorem through_append (start : Controller) (later earlier : List Occurrence) :
    start.through (later ++ earlier) = (start.through earlier).through later := by
  induction later with
  | nil => rfl
  | cons occurrence later ih => exact congrArg (·.after occurrence) ih

/-- A continued history is permitted if both parts are. -/
theorem permitted_append {start : Controller} {later earlier : List Occurrence}
    (hearlier : start.Permitted earlier) (hlater : (start.through earlier).Permitted later) :
    start.Permitted (later ++ earlier) := by
  induction later with
  | nil => exact hearlier
  | cons occurrence later ih =>
    have hlast := hlater.2
    rw [← through_append] at hlast
    exact ⟨ih hlater.1, hlast⟩

/-- Whether a controller becomes another one by permitted occurrences. -/
def Leads (before after : Controller) : Prop :=
  ∃ history, before.Permitted history ∧ before.through history = after

/-- Nothing has to happen. -/
theorem Leads.refl (controller : Controller) : controller.Leads controller :=
  ⟨[], trivial, rfl⟩

/-- Occurrences may follow each other. -/
theorem Leads.trans {first second third : Controller} (h : first.Leads second)
    (h' : second.Leads third) : first.Leads third := by
  obtain ⟨earlier, hearlier, rfl⟩ := h
  obtain ⟨later, hlater, rfl⟩ := h'
  exact ⟨later ++ earlier, permitted_append hearlier hlater, through_append first later earlier⟩

/-- One permitted occurrence. -/
theorem leads_after {occurrence : Occurrence} (h : controller.Permits occurrence) :
    controller.Leads (controller.after occurrence) :=
  ⟨[occurrence], ⟨trivial, h⟩, rfl⟩

/-- Everything that is delayed in a queue is due later than now. -/
def Ahead (jobs : DelayQueue Job) : Prop :=
  ∀ entry ∈ jobs.delayed, jobs.clock < entry.due

/-- A requeued job is due later than now. -/
theorem Ahead.requeue {jobs : DelayQueue Job} (h : Ahead jobs) (job : Job) :
    Ahead (jobs.requeue job) := by
  unfold DelayQueue.requeue
  split
  · exact h
  · dsimp only
    split
    · exact h
    · next hdelay =>
      intro entry hentry
      rcases List.mem_append.mp hentry with hentry | hentry
      · exact h entry hentry
      · have hpositive := mt (jobs.backoff.delayMillis_eq_zero_iff _).mp hdelay
        rw [List.mem_singleton.mp hentry]
        exact Nat.lt_add_of_pos_right (Nat.pos_of_ne_zero hpositive)

/-- The execution of a job delays it at most until later than now. -/
theorem Ahead.execute {worker : Worker} (h : Ahead worker.jobs) (job : Job) :
    Ahead (worker.execute job).jobs := by
  obtain ⟨asked, hasked, -⟩ := (worker.frame_run job).asks
  have hrun : Ahead (worker.run job).1.jobs := by
    rw [hasked]
    exact h
  change Ahead ((Worker.settle (worker.run job) job).jobs.done job)
  generalize worker.run job = outcome at hrun
  obtain ⟨after, failure⟩ := outcome
  rw [Worker.jobs_settle]
  split
  · exact hrun
  · exact hrun.requeue job

/-- The execution of visible jobs is a history, which does not move the clock. -/
theorem leads_runAtMost (limit : Nat) (controller : Controller)
    (h : Ahead controller.worker.jobs) :
    controller.Leads { controller with worker := (controller.worker.runAtMost limit).2 } ∧
      Ahead (controller.worker.runAtMost limit).2.jobs ∧
      (controller.worker.runAtMost limit).2.jobs.clock = controller.worker.jobs.clock := by
  induction limit generalizing controller with
  | zero => exact ⟨.refl controller, h, rfl⟩
  | succ limit ih =>
    unfold Worker.runAtMost
    cases hstep : controller.worker.step with
    | none => exact ⟨.refl controller, h, rfl⟩
    | some next =>
      have hnext : Ahead next.jobs := by
        obtain ⟨job, rest, htake, rfl⟩ := Worker.step_eq_some hstep
        obtain ⟨inner, -, rfl⟩ := DelayQueue.take_eq_some htake
        have hrest : Ahead (controller.worker.withJobs
            { controller.worker.jobs with queue := inner }).jobs := h
        exact hrest.execute job
      have hpermits : controller.Permits .work := trivial
      have hwork : controller.after .work = { controller with worker := next } := by
        simp only [after, hstep, Option.getD_some]
      have hclock := controller.worker.clock_step
      rw [hstep] at hclock
      obtain ⟨hleads, hahead, hsame⟩ := ih { controller with worker := next } hnext
      exact ⟨(hwork ▸ leads_after hpermits).trans hleads, hahead,
        hsame.trans hclock⟩

/-- What is delayed is due later than now, and the timer fires later than now. -/
structure Punctual (controller : Controller) : Prop where
  delayed : Ahead controller.worker.jobs
  tick : ∀ moment, controller.nextTick = some moment → controller.finished = false →
    controller.worker.jobs.clock < moment

/-- A new controller is punctual. -/
theorem punctual_create (config : Config) (cluster : Cluster) (pool : Pool) (pusher : Pusher) :
    (create config cluster pool pusher).Punctual :=
  ⟨nofun, nofun⟩

/-- The next moment when something is due is later than now. -/
theorem Punctual.lt_of_nextMoment (h : controller.Punctual) {moment : Nat}
    (hmoment : controller.nextMoment = some moment) :
    controller.worker.jobs.clock < moment := by
  have hdue : ∀ due, controller.worker.jobs.nextDue = some due →
      controller.worker.jobs.clock < due := by
    intro due hdue
    obtain ⟨entry, hentry, rfl⟩ := List.mem_map.mp (List.min?_mem hdue)
    exact h.delayed entry hentry
  simp only [nextMoment] at hmoment
  split at hmoment
  · exact hdue moment hmoment
  · next hrunning =>
    have hfinished := Bool.not_eq_true _ ▸ hrunning
    split at hmoment
    · next due tick hsome htick =>
      cases hmoment
      exact Nat.lt_min.mpr ⟨hdue due hsome, h.tick tick htick hfinished⟩
    · next due hsome _ =>
      cases hmoment
      exact hdue _ hsome
    · exact h.tick moment hmoment hfinished

/-- The timer does not fire before the next moment when something is due. -/
theorem nextMoment_le_tick {tick : Nat} (htick : controller.nextTick = some tick)
    (hrunning : controller.finished = false) :
    ∃ moment, controller.nextMoment = some moment ∧ moment ≤ tick := by
  unfold nextMoment
  rw [if_neg (by simp [hrunning]), htick]
  cases controller.worker.jobs.nextDue with
  | none => exact ⟨tick, rfl, le_rfl⟩
  | some due => exact ⟨min due tick, rfl, Nat.min_le_right due tick⟩

/-- The clock may move up to the next moment when something is due. -/
theorem punctual_reach (hperiod : 0 < controller.period) {moment : Nat}
    (hnext : ∀ due, controller.nextMoment = some due → moment ≤ due) :
    (controller.reach moment).Punctual := by
  unfold Controller.reach
  by_cases hticks : controller.ticksAt moment = true
  · rw [if_pos hticks]
    refine ⟨fun entry hentry => of_decide_eq_true (List.mem_filter.mp hentry).2, ?_⟩
    intro tick htick _
    cases htick
    exact Nat.lt_add_of_pos_right hperiod
  · rw [if_neg hticks]
    refine ⟨fun entry hentry => of_decide_eq_true (List.mem_filter.mp hentry).2, ?_⟩
    intro tick htick hrunning
    have hset : controller.nextTick = some tick := htick
    obtain ⟨due, hdue, hle⟩ := nextMoment_le_tick hset hrunning
    have hmoment := (hnext due hdue).trans hle
    refine lt_of_le_of_ne hmoment fun heq => hticks ?_
    simp only [ticksAt, Bool.and_eq_true, decide_eq_true_eq, Bool.not_eq_true']
    exact ⟨htick.trans (congrArg some heq.symm), hrunning⟩

/-- Whatever can be done at the present moment is a history, which does not move the clock. -/
theorem leads_act (h : controller.Punctual) (hperiod : 0 < controller.period) :
    controller.Leads controller.act ∧ controller.act.Punctual ∧
      controller.act.worker.jobs.clock = controller.worker.jobs.clock ∧
      controller.act.period = controller.period := by
  by_cases hfinished : controller.finished = true
  · have hact : controller.act = controller := if_pos hfinished
    rw [hact]
    exact ⟨.refl controller, h, rfl, rfl⟩
  have hstart : controller.Permits .start := trivial
  have hstarted : controller.Leads controller.startTimer := leads_after hstart
  have hworker : controller.startTimer.worker = controller.worker ∧
      controller.startTimer.period = controller.period := by
    unfold startTimer
    split <;> exact ⟨rfl, rfl⟩
  have hpunctual : controller.startTimer.Punctual := by
    unfold startTimer
    split
    · exact h
    · refine ⟨h.delayed, fun moment hmoment _ => ?_⟩
      cases hmoment
      exact Nat.lt_add_of_pos_right hperiod
  obtain ⟨hsame, hperiod'⟩ := hworker
  unfold act
  rw [if_neg hfinished]
  generalize controller.startTimer = started at hstarted hpunctual hsame hperiod' ⊢
  dsimp only
  split
  · -- The queue is closed, the visible jobs are executed, and the worker is gone.
    have hclose : started.Permits .close := trivial
    obtain ⟨hdrained, hahead, hclock⟩ := leads_runAtMost
      (started.after .close).worker.jobBound (started.after .close) hpunctual.delayed
    let drained : Controller :=
      { started.after .close with worker := (started.after .close).worker.runUntilIdle.2 }
    have hfinish : drained.Permits .finish := trivial
    refine ⟨hstarted.trans ((leads_after hclose).trans (hdrained.trans (leads_after hfinish))),
      ⟨hahead, nofun⟩, hclock.trans (congrArg (·.jobs.clock) hsame), hperiod'⟩
  · obtain ⟨hworked, hahead, hclock⟩ := leads_runAtMost started.worker.jobBound started
      hpunctual.delayed
    refine ⟨hstarted.trans hworked, ⟨hahead, fun moment hmoment hrunning => ?_⟩,
      hclock.trans (congrArg (·.jobs.clock) hsame), hperiod'⟩
    exact hclock.trans_lt (hpunctual.tick moment hmoment hrunning)

/-- Moving the clock up to a moment when nothing has been due yet is a history. -/
theorem leads_reach (hperiod : 0 < controller.period) {moment : Nat}
    (hforward : controller.worker.jobs.clock ≤ moment)
    (hnext : ∀ due, controller.nextMoment = some due → moment ≤ due) :
    controller.Leads (controller.reach moment) ∧ (controller.reach moment).Punctual ∧
      (controller.reach moment).worker.jobs.clock = moment ∧
      (controller.reach moment).period = controller.period := by
  have hpermits : controller.Permits (.reach moment) := hforward
  refine ⟨leads_after hpermits, punctual_reach hperiod hnext, ?_⟩
  unfold Controller.reach
  split <;> exact ⟨rfl, rfl⟩

/-- Letting time pass is a history, as long as the limit allows for every millisecond. -/
theorem leads_elapse (limit : Nat) (controller : Controller) (h : controller.Punctual)
    (hperiod : 0 < controller.period) {last : Nat}
    (hforward : controller.worker.jobs.clock ≤ last)
    (hlimit : last ≤ controller.worker.jobs.clock + limit) :
    controller.Leads (elapse limit controller last) ∧ (elapse limit controller last).Punctual ∧
      (elapse limit controller last).worker.jobs.clock = last ∧
      (elapse limit controller last).period = controller.period := by
  induction limit generalizing controller with
  | zero =>
    refine leads_reach hperiod hforward fun due hdue => ?_
    exact hlimit.trans (h.lt_of_nextMoment hdue).le
  | succ limit ih =>
    unfold elapse
    split
    · next hnone => exact leads_reach hperiod hforward fun due hdue => by simp [hnone] at hdue
    · next moment hmoment =>
      split
      · next hreached =>
        -- Something is due by then: the clock moves there, and the controller acts.
        have hlater := h.lt_of_nextMoment hmoment
        obtain ⟨hleads, hpunctual, hclock, hsame⟩ :=
          leads_reach hperiod hlater.le fun due hdue => by
            rw [hmoment] at hdue
            exact (Option.some.inj hdue).le
        have hperiod' : 0 < (controller.reach moment).period := hsame.symm ▸ hperiod
        obtain ⟨hacts, hpunctual', hclock', hsame'⟩ := leads_act hpunctual hperiod'
        obtain ⟨hrest, hend⟩ := ih (controller.reach moment).act hpunctual'
          (hsame'.symm ▸ hperiod') (by omega) (by omega)
        exact ⟨hleads.trans (hacts.trans hrest), hend.1, hend.2.1,
          hend.2.2.trans (hsame'.trans hsame)⟩
      · next hbeyond =>
        refine leads_reach hperiod hforward fun due hdue => ?_
        rw [hmoment] at hdue
        cases hdue
        exact (not_le.mp hbeyond).le

/-- Whatever a controller does while time passes is a permitted history, after which it is punctual
again. -/
theorem leads_advance (h : controller.Punctual) (hperiod : 0 < controller.period) (millis : Nat) :
    controller.Leads (controller.advance millis) ∧ (controller.advance millis).Punctual ∧
      (controller.advance millis).worker.jobs.clock = controller.worker.jobs.clock + millis ∧
      (controller.advance millis).period = controller.period := by
  obtain ⟨hacts, hpunctual, hclock, hsame⟩ := leads_act h hperiod
  unfold advance
  rw [← hclock]
  obtain ⟨hleads, hend⟩ := leads_elapse millis controller.act hpunctual (hsame.symm ▸ hperiod)
    (Nat.le_add_right _ millis) le_rfl
  exact ⟨hacts.trans hleads, hend.1, hend.2.1, hend.2.2.trans hsame⟩

end Controller

end Balancer
