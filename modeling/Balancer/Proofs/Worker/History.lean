import Mathlib
import Balancer.Proofs.Worker.Execution

/-!
# Histories of the worker

What happens to a worker and around it, in any order: users put and delete services, the nodes
change, jobs are requested and executed, delays pass, and the store, the pool and the agents fail
and recover. Whoever changes a service or the nodes has the worker told at once. The worker is told
about what a job persists as the job ends, before anything else happens; being told while the job
still runs would come to the same, since the synchronisation that runs is not handed out twice.
-/

namespace Balancer

/-- Something that happens to a worker or around it. -/
inductive Happening where
  /-- A user creates or replaces a service. -/
  | put (service : Service)
  /-- A user deletes a service. -/
  | delete (id : ServiceId)
  /-- The node addresses change. -/
  | setNodes (nodes : List String)
  /-- Someone asks for a job. -/
  | request (job : Job)
  /-- The worker executes the next visible job. -/
  | turn
  /-- The worker executes a job that is not taken from the queue. -/
  | execute (job : Job)
  /-- The clock of the queue moves to a moment. -/
  | reach (moment : Nat)
  /-- The delay of one job passes. -/
  | expire (entry : Delayed Job)
  /-- Reads of the store begin or cease to fail. -/
  | failReads (failing : Bool)
  /-- Writes of the store begin or cease to fail. -/
  | failWrites (failing : Bool)
  /-- Pushes begin or cease to fail. -/
  | failPushes (failure : Option PushError)
  /-- Someone else changes the pool. -/
  | changePool (change : PoolChange)
  /-- The queue accepts no further jobs. -/
  | shutDown

/-- Whether something happens around the worker: it neither runs a job nor ends the queue. -/
def Happening.Outside : Happening → Prop
  | .turn | .execute _ | .shutDown => False
  | _ => True

instance (happening : Happening) : Decidable happening.Outside :=
  match happening with
  | .turn | .execute _ | .shutDown => .isFalse not_false
  | .put _ | .delete _ | .setNodes _ | .request _ | .reach _ | .expire _ => .isTrue trivial
  | .failReads _ | .failWrites _ | .failPushes _ | .changePool _ => .isTrue trivial

namespace Worker

/-- The services whose stored objects differ from those of an earlier worker. -/
def changedSince (before after : Worker) : List ServiceId :=
  after.cluster.store.services.keys.filter fun id =>
    decide (after.cluster.store.get? id ≠ before.cluster.store.get? id)

/-- The worker is told about every service that changed since. -/
def notified (before after : Worker) : Worker :=
  { after with jobs := after.jobs.addAll ((before.changedSince after).map Job.syncService) }

/-- The worker with another content of the store. -/
def withStore (worker : Worker) (store : Store) : Worker :=
  { worker with cluster := { worker.cluster with store } }

/-- The worker after something happened. -/
def after (worker : Worker) : Happening → Worker
  | .put service =>
    (worker.withStore (worker.cluster.store.put service).2).enqueue (.syncService service.id)
  | .delete id =>
    match worker.cluster.store.get? id with
    | none => worker
    | some deleted =>
      (worker.withStore (worker.cluster.store.delete id).2).enqueue
        (.removeService id deleted.annotations)
  | .setNodes nodes =>
    (worker.withStore { worker.cluster.store with nodes }).enqueue .pushConfig
  | .request job => worker.enqueue job
  | .turn => worker.notified (worker.step.getD worker)
  | .execute job => worker.notified (worker.execute job)
  | .reach moment => { worker with jobs := worker.jobs.reach moment }
  | .expire entry => { worker with jobs := worker.jobs.expire entry }
  | .failReads readsFailing => { worker with cluster := { worker.cluster with readsFailing } }
  | .failWrites writesFailing =>
    worker.withStore { worker.cluster.store with writesFailing }
  | .failPushes failure => { worker with pusher := { worker.pusher with failure } }
  | .changePool change => { worker with pool := worker.pool.change change }
  | .shutDown => { worker with jobs := worker.jobs.shutDown }

/-- The stored objects after an object was put. -/
theorem get?_after_put (worker : Worker) (service : Service) (id : ServiceId) :
    (worker.after (.put service)).cluster.store.get? id =
      if id = service.id then
        some { service with version := worker.cluster.store.versionOf service.id + 1 }
      else worker.cluster.store.get? id :=
  worker.cluster.store.get?_put service id

/-- The stored objects after an object was deleted. -/
theorem get?_after_delete (worker : Worker) (deleted id : ServiceId) :
    (worker.after (.delete deleted)).cluster.store.get? id =
      if id = deleted then none else worker.cluster.store.get? id := by
  simp only [after]
  split
  · next hnone =>
    split
    · next hsame => rw [hsame, hnone]
    · rfl
  · exact worker.cluster.store.get?_delete deleted id

/-- The deletion of an object that is not stored does nothing. -/
theorem after_delete_of_absent {worker : Worker} {id : ServiceId}
    (hstored : worker.cluster.store.get? id = none) : worker.after (.delete id) = worker := by
  simp only [after, hstored]

/-- The worker is told about a deletion together with the annotations of the deleted object. -/
theorem after_delete_of_stored {worker : Worker} {id : ServiceId} {deleted : Service}
    (hstored : worker.cluster.store.get? id = some deleted) :
    worker.after (.delete id) = (worker.withStore (worker.cluster.store.delete id).2).enqueue
      (.removeService id deleted.annotations) := by
  simp only [after, hstored]

/-- Deletions leave the bookkeeping of the allocator alone. -/
theorem allocator_after_delete (worker : Worker) (id : ServiceId) :
    (worker.after (.delete id)).allocator = worker.allocator := by
  simp only [after]
  split <;> rfl

/-- The worker after a history, which lists what happened with the latest first. -/
def through (start : Worker) : List Happening → Worker
  | [] => start
  | happening :: earlier => (start.through earlier).after happening

/-- A worker that starts with an empty store and an empty pool. -/
def sample : Worker :=
  start {} {} .sample {} .standard

/-- A store without objects is in order. -/
theorem direct_sample : sample.cluster.Direct := by
  refine ⟨rfl, fun id object hobject => ?_⟩
  have hnone : sample.cluster.store.get? id = none := by simp [sample, start, publish, Store.get?]
  rw [hnone] at hobject
  cases hobject

/-- Everything in a history obeyed a rule when it happened. -/
def Follows (start : Worker) (rule : Worker → Happening → Prop) : List Happening → Prop
  | [] => True
  | happening :: earlier =>
    start.Follows rule earlier ∧ rule (start.through earlier) happening

/-- What every permitted happening preserves holds throughout a history. -/
theorem Follows.invariant {start : Worker} {rule : Worker → Happening → Prop}
    {history : List Happening} (h : start.Follows rule history) (invariant : Worker → Prop)
    (hstart : invariant start)
    (hafter : ∀ worker happening, invariant worker → rule worker happening →
      invariant (worker.after happening)) : invariant (start.through history) := by
  induction history with
  | nil => exact hstart
  | cons happening earlier ih => exact hafter _ happening (ih h.1) h.2

/-- An event happened in a history, and nothing has revoked it since. -/
def Stands (start : Worker) (event revoking : Worker → Happening → Prop) : List Happening → Prop
  | [] => False
  | happening :: earlier =>
    event (start.through earlier) happening ∨
      start.Stands event revoking earlier ∧ ¬revoking (start.through earlier) happening

/-- What the event establishes, and everything but what revokes it preserves, holds while the event
stands. -/
theorem Stands.invariant {start : Worker} {event revoking rule : Worker → Happening → Prop}
    {history : List Happening} (h : start.Stands event revoking history)
    (hhistory : start.Follows rule history) (invariant : Worker → Prop)
    (hevent : ∀ earlier happening, rule (start.through earlier) happening →
      event (start.through earlier) happening → invariant (start.through (happening :: earlier)))
    (hkept : ∀ earlier happening, rule (start.through earlier) happening →
      invariant (start.through earlier) → ¬revoking (start.through earlier) happening →
        invariant (start.through (happening :: earlier))) :
    invariant (start.through history) := by
  induction history with
  | nil => exact h.elim
  | cons happening earlier ih =>
    rcases h with hnow | ⟨hearlier, hstill⟩
    · exact hevent earlier happening hhistory.2 hnow
    · exact hkept earlier happening hhistory.2 (ih hearlier hhistory.1) hstill

/-- A changed object is among the changes. -/
theorem mem_changedSince {before after : Worker} {id : ServiceId} {object : Service}
    (hobject : after.cluster.store.get? id = some object)
    (hchanged : before.cluster.store.get? id ≠ some object) : id ∈ before.changedSince after := by
  refine List.mem_filter.mpr ⟨Std.ExtTreeMap.mem_keys.mpr ?_, decide_eq_true ?_⟩
  · exact mem_of_getElem?_eq_some hobject
  · rw [hobject]
    exact Ne.symm hchanged

/-- What a run of a job becomes once the job is settled with the queue and the worker was told
about the changes. -/
structure Settles (before : Worker) (job : Job) (outcome : Outcome) (after : Worker) : Prop where
  allocator : after.allocator = outcome.1.allocator
  cluster : after.cluster = outcome.1.cluster
  pool : after.pool = outcome.1.pool
  pusher : after.pusher = outcome.1.pusher
  jobs : outcome.1.jobs.Extends after.jobs
  requeued : after.jobs.queue.shuttingDown = false → outcome.2 ≠ none → after.jobs.Waits job
  told : after.jobs.queue.shuttingDown = false → ∀ id object,
    after.cluster.store.get? id = some object → before.cluster.store.get? id ≠ some object →
      after.jobs.Waits (.syncService id)

/-- Settling a job with the queue stores nothing. -/
theorem Settles.get?_eq {before after : Worker} {job : Job} {outcome : Outcome}
    (h : before.Settles job outcome after) (id : ServiceId) :
    after.cluster.store.get? id = outcome.1.cluster.store.get? id := by
  rw [h.cluster]

/-- The execution of a job settles its run. -/
theorem settles_execute (before worker : Worker) (job : Job) :
    before.Settles job (worker.run job) (before.notified (worker.execute job)) := by
  obtain ⟨jobs, published, history, heq, hjobs, hfailed⟩ := worker.execute_eq job
  rw [heq]
  have htold := jobs.extends_addAll ((before.changedSince
    { (worker.run job).1 with jobs, published, history }).map Job.syncService)
  refine ⟨rfl, rfl, rfl, rfl, hjobs.trans htold, fun hopen hfailure => ?_, ?_⟩
  · have hopen' := htold.shuttingDown.symm.trans hopen
    exact htold.waits hopen' job (hfailed (hjobs.shuttingDown.symm.trans hopen') hfailure)
  · intro hopen id object hobject hchanged
    have hopen' := htold.shuttingDown.symm.trans hopen
    exact DelayQueue.waits_addAll hopen' (List.mem_map_of_mem (mem_changedSince hobject hchanged))

/-- The execution of a job that is not taken from the queue settles its run. -/
theorem execute_settles (worker : Worker) (job : Job) :
    worker.Settles job (worker.run job) (worker.after (.execute job)) :=
  settles_execute worker worker job

/-- Telling a worker about no change changes nothing. -/
theorem notified_self (worker : Worker) : worker.notified worker = worker := by
  have hnone : worker.changedSince worker = [] := by simp [changedSince]
  simp only [notified, hnone]
  rfl

/-- A turn does nothing if no job is visible. -/
theorem turn_of_take_eq_none {worker : Worker} (htake : worker.jobs.take = none) :
    worker.after .turn = worker := by
  have hstep : worker.step = none := by rw [step, htake, Option.map_none]
  simp only [after, hstep]
  exact worker.notified_self

/-- A turn settles the run of the job that it takes. -/
theorem settles_turn {worker : Worker} {job : Job} {rest : DelayQueue Job}
    (htake : worker.jobs.take = some (job, rest)) :
    worker.Settles job ((worker.withJobs rest).run job) (worker.after .turn) := by
  have hstep : worker.step = some ((worker.withJobs rest).execute job) := by
    rw [step, htake, Option.map_some, withJobs]
  simp only [after, hstep]
  exact settles_execute worker _ job

/-- A turn does nothing if no job is visible, and otherwise settles the job that it takes. -/
theorem turn_cases (worker : Worker) :
    worker.after .turn = worker ∨
      ∃ job rest, worker.jobs.take = some (job, rest) ∧
        worker.Settles job ((worker.withJobs rest).run job) (worker.after .turn) := by
  cases htake : worker.jobs.take with
  | none => exact Or.inl (turn_of_take_eq_none htake)
  | some taken => exact Or.inr ⟨taken.1, taken.2, rfl, settles_turn htake⟩

/-- The pool changes at most by one of its changes at a time. -/
theorem pool_after (worker : Worker) (hcluster : worker.cluster.Direct) (happening : Happening) :
    (worker.after happening).pool = worker.pool ∨
      ∃ change, (worker.after happening).pool = worker.pool.change change := by
  cases happening with
  | delete id =>
    simp only [after]
    split <;> exact Or.inl rfl
  | turn =>
    rcases worker.turn_cases with heq | ⟨job, rest, -, hsettles⟩
    · rw [heq]
      exact Or.inl rfl
    · rw [hsettles.pool]
      exact ((worker.withJobs rest).carries_run hcluster job).pool
  | execute job =>
    rw [(worker.execute_settles job).pool]
    exact (worker.carries_run hcluster job).pool
  | changePool change => exact Or.inr ⟨change, rfl⟩
  | _ => exact Or.inl rfl

/-- Whatever happens, the cache keeps following the store. -/
theorem direct_after (worker : Worker) (hcluster : worker.cluster.Direct) (happening : Happening) :
    (worker.after happening).cluster.Direct := by
  have ⟨hthawed, hkeyed⟩ := hcluster
  cases happening with
  | put service => exact ⟨hthawed, hkeyed.put service⟩
  | delete id =>
    simp only [after]
    split
    · exact hcluster
    · exact ⟨hthawed, hkeyed.delete id⟩
  | turn =>
    rcases worker.turn_cases with heq | ⟨job, rest, -, hsettles⟩
    · rwa [heq]
    · rw [hsettles.cluster]
      exact ((worker.withJobs rest).carries_run hcluster job).cluster hcluster
  | execute job =>
    rw [(worker.execute_settles job).cluster]
    exact (worker.carries_run hcluster job).cluster hcluster
  | _ => exact ⟨hthawed, hkeyed⟩

/-- Whatever happens, the surroundings of the worker stay in order. -/
theorem Grounded.after {worker : Worker} (h : worker.Grounded) (happening : Happening) :
    (worker.after happening).Grounded :=
  ⟨h.pool.of_moved (worker.pool_after h.cluster happening), worker.direct_after h.cluster happening⟩

/-- Whatever happens, no address of a port is taken back. -/
theorem Grounded.keepsAddresses {worker : Worker} (h : worker.Grounded) (happening : Happening) :
    worker.pool.KeepsAddresses (worker.after happening).pool :=
  h.pool.keepsAddresses_of_moved (worker.pool_after h.cluster happening)

/-- Whatever happens around the worker, the jobs that wait go on waiting. -/
theorem extends_outside (worker : Worker) {happening : Happening} (h : happening.Outside) :
    worker.jobs.Extends (worker.after happening).jobs := by
  cases happening with
  | put service => exact worker.jobs.extends_add _
  | delete id =>
    simp only [after]
    split
    · exact .refl worker.jobs
    · exact worker.jobs.extends_add _
  | setNodes nodes => exact worker.jobs.extends_add _
  | request job => exact worker.jobs.extends_add job
  | turn => exact h.elim
  | execute job => exact h.elim
  | reach moment => exact worker.jobs.extends_reach moment
  | expire entry => exact worker.jobs.extends_expire entry
  | shutDown => exact h.elim
  | _ => exact .refl worker.jobs

/-- Whatever happens besides a turn and the end of the queue, the jobs that wait go on waiting. -/
theorem extends_after {worker : Worker} (hcluster : worker.cluster.Direct) {happening : Happening}
    (hturn : happening ≠ .turn) (hshut : happening ≠ .shutDown) :
    worker.jobs.Extends (worker.after happening).jobs := by
  cases happening with
  | turn => exact absurd rfl hturn
  | execute job =>
    have hrun := (worker.carries_run hcluster job).jobs
    exact hrun.trans (worker.execute_settles job).jobs
  | shutDown => exact absurd rfl hshut
  | _ => exact worker.extends_outside trivial

/-- A turn leaves the queue open or closed, and the jobs other than the one it takes go on
waiting. -/
theorem Settles.waits {worker after : Worker} {job : Job} {rest : DelayQueue Job}
    (hsettles : worker.Settles job ((worker.withJobs rest).run job) after)
    (hcluster : worker.cluster.Direct) (htake : worker.jobs.take = some (job, rest)) :
    after.jobs.queue.shuttingDown = worker.jobs.queue.shuttingDown ∧
      (worker.jobs.queue.Sound → after.jobs.queue.Sound) ∧
      (worker.jobs.queue.shuttingDown = false → ∀ other, worker.jobs.Waits other → other ≠ job →
        after.jobs.Waits other) := by
  have hrun := ((worker.withJobs rest).carries_run hcluster job).jobs
  have hrest := hrun.trans hsettles.jobs
  obtain ⟨hshut, hsound⟩ := DelayQueue.sound_take htake
  refine ⟨hrest.shuttingDown.trans hshut, hrest.sound ∘ hsound, fun hopen other hother hne => ?_⟩
  exact hrest.waits (hshut.trans hopen) other (DelayQueue.waits_take htake hother hne)

/-- Whatever happens, the pending jobs stay in view, and a queue that is open was open before. -/
theorem queue_after {worker : Worker} (hcluster : worker.cluster.Direct) (happening : Happening) :
    (worker.jobs.queue.Sound → (worker.after happening).jobs.queue.Sound) ∧
      ((worker.after happening).jobs.queue.shuttingDown = false →
        worker.jobs.queue.shuttingDown = false) := by
  by_cases hshut : happening = .shutDown
  · subst hshut
    exact ⟨fun h => h, fun hopen => by cases hopen⟩
  by_cases hturn : happening = .turn
  · subst hturn
    rcases worker.turn_cases with heq | ⟨job, rest, htake, hsettles⟩
    · rw [heq]
      exact ⟨fun h => h, fun h => h⟩
    · obtain ⟨hopen, hsound, -⟩ := hsettles.waits hcluster htake
      exact ⟨hsound, hopen.symm.trans⟩
  · have hextends := extends_after hcluster hturn hshut
    exact ⟨hextends.sound, hextends.shuttingDown.symm.trans⟩

/-- A worker at its start: nothing is mapped and no job is pending. The store may have objects. -/
structure Starting (worker : Worker) : Prop where
  pool : worker.pool.Reachable
  cluster : worker.cluster.Direct
  records : worker.allocator.records = ∅
  pending : worker.jobs.queue.pending = []

/-- Only jobs that are taken from the queue are executed. -/
def FromQueue (_ : Worker) : Happening → Prop
  | .execute _ => False
  | _ => True

/-- The sample worker is at its start. -/
theorem starting_sample : sample.Starting :=
  ⟨.empty _ _ _, direct_sample, rfl, rfl⟩

/-- Throughout a history the surroundings are in order and the pending jobs in view. -/
theorem Starting.orderly {start : Worker} (hstart : start.Starting) (history : List Happening) :
    (start.through history).Grounded ∧ (start.through history).jobs.queue.Sound := by
  induction history with
  | nil =>
    refine ⟨⟨hstart.pool.sound, hstart.cluster⟩, fun job hjob => ?_⟩
    change job ∈ start.jobs.queue.pending at hjob
    rw [hstart.pending] at hjob
    cases hjob
  | cons happening earlier ih =>
    exact ⟨ih.1.after happening, (queue_after ih.1.cluster happening).1 ih.2⟩

end Worker

end Balancer
