import Mathlib
import Balancer.Proofs.Worker.Description
import Balancer.Proofs.Worker.Ownership

/-!
# Delivery of the forwarding model

Jobs that change the assignment do not always push. What makes up for it is that every difference
between the accepted model and the state of the worker is covered by a job that waits: a push, the
removal of a managed service, or the synchronisation of a marked one. Each of these ends in a push,
fails and waits again, or persists something and so brings back a synchronisation. Once no job
waits, there is no difference left.
-/

namespace Balancer

namespace Worker

/-- The model that was pushed last without a failure, or the empty one. -/
def lastAccepted (worker : Worker) : ForwardingModel :=
  worker.pusher.received.getLast?.getD {}

/-- Whether a job is going to end in a push: by itself, or through jobs that it brings about. -/
def EndsInPush (worker : Worker) : Job → Prop
  | .pushConfig => True
  | .removeService _ annotations => Annotations.isManaged annotations = true
  | .syncService id => worker.Owned id
  | _ => False

/-- Whether a job waits that is going to end in a push. -/
def PushDue (worker : Worker) : Prop :=
  ∃ job, worker.EndsInPush job ∧ worker.jobs.Waits job

/-- The accepted model describes the worker, or a job waits that is going to end in a push. -/
def Covered (worker : Worker) : Prop :=
  worker.Describes worker.lastAccepted ∨ worker.PushDue

/-- Users do not take the mark off a marked service, and only jobs that are taken from the queue are
executed. -/
def KeepsMark (worker : Worker) : Happening → Prop
  | .put service => ∀ stored, worker.cluster.store.get? service.id = some stored →
      stored.isManaged = true → service.isManaged = true
  | .execute _ => False
  | _ => True

variable {worker after : Worker} {id : ServiceId}

/-- A job goes on leading to a push while owned services stay owned. -/
theorem EndsInPush.mono {job : Job} (h : worker.EndsInPush job)
    (howned : ∀ id, worker.Owned id → after.Owned id) : after.EndsInPush job := by
  cases job with
  | syncService id => exact howned id h
  | _ => exact h

/-- A push stays due while jobs go on waiting and owned services stay owned. -/
theorem PushDue.mono (h : worker.PushDue)
    (hwaits : ∀ job, worker.jobs.Waits job → after.jobs.Waits job)
    (howned : ∀ id, worker.Owned id → after.Owned id) : after.PushDue := by
  obtain ⟨job, hends, hwait⟩ := h
  exact ⟨job, hends.mono howned, hwaits job hwait⟩

/-- What a happening leaves as it is when it neither changes the described state nor pushes. -/
structure SameModel (worker after : Worker) : Prop where
  records : ∀ id : ServiceId, after.allocator.records[id]? = worker.allocator.records[id]?
  nodes : after.cluster.store.nodes = worker.cluster.store.nodes
  ports : ∀ id, worker.Mapped id → (after.cluster.store.get? id).map Service.ports =
    (worker.cluster.store.get? id).map Service.ports
  pool : worker.pool.KeepsAddresses after.pool
  received : after.pusher.received = worker.pusher.received

/-- The accepted model goes on describing the worker. -/
theorem SameModel.describes (hsame : worker.SameModel after)
    (h : worker.Describes worker.lastAccepted) : after.Describes after.lastAccepted := by
  have hassignment : after.allocator.assignment = worker.allocator.assignment := by
    refine Std.ExtTreeMap.ext_getElem? fun id => ?_
    rw [Allocator.getElem?_assignment, Allocator.getElem?_assignment, hsame.records]
  rw [lastAccepted, hsame.received]
  exact h.of_eq hsame.nodes hassignment hsame.ports hsame.pool

/-- What is covered stays covered when nothing of the described state changes. -/
theorem Covered.frame (h : worker.Covered) (hsame : worker.SameModel after)
    (hdue : worker.PushDue → after.PushDue) : after.Covered :=
  h.imp hsame.describes hdue

section Turn

variable {job : Job} {rest : DelayQueue Job}
  (hworker : worker.Grounded) (htake : worker.jobs.take = some (job, rest))
  (hsettles : worker.Settles job ((worker.withJobs rest).run job) after)
  (hopen : after.jobs.queue.shuttingDown = false)
include hworker htake hsettles hopen

omit htake in
/-- A push that a run asks for is due after the turn. -/
theorem Settles.pushDue_of_waits
    (hwait : rest.queue.shuttingDown = false →
      ((worker.withJobs rest).run job).1.jobs.Waits .pushConfig) : after.PushDue := by
  have hrun := ((worker.withJobs rest).carries_run hworker.cluster job).jobs
  have hopen' := hsettles.jobs.shuttingDown.symm.trans hopen
  have hwait' := hwait (hrun.shuttingDown.symm.trans hopen')
  exact ⟨.pushConfig, trivial, hsettles.jobs.waits hopen' _ hwait'⟩

/-- A turn that stores nothing and keeps the records and the accepted models, with a job that is not
going to end in a push, keeps what is covered. -/
theorem Settles.covered_of_same
    (hidle : (worker.withJobs rest).Idle ((worker.withJobs rest).run job).1)
    (hjob : ¬worker.EndsInPush job) (h : worker.Covered) :
    after.Covered := by
  have hcarries := (worker.withJobs rest).carries_run hworker.cluster job
  have hground : (worker.withJobs rest).Grounded := ⟨hworker.pool, hworker.cluster⟩
  have hstored (id : ServiceId) :
      after.cluster.store.get? id = worker.cluster.store.get? id :=
    (hsettles.get?_eq id).trans (hidle.stored id)
  have hpusher : after.pusher = worker.pusher := hsettles.pusher.trans hidle.pusher
  obtain ⟨hshut, -, hwaits⟩ := hsettles.waits hworker.cluster htake
  have hkept := hwaits (hshut.symm.trans hopen)
  apply h.frame
  · constructor
    · rw [hsettles.allocator]
      exact hidle.records
    · rw [hsettles.cluster]
      exact hcarries.nodes
    · intro id _
      rw [hstored]
    · rw [hsettles.pool]
      exact hcarries.keepsAddresses hground
    · rw [hpusher]
  · intro hdue
    obtain ⟨other, hends, hwait⟩ := hdue
    refine ⟨other, hends.mono ?_, hkept other hwait ?_⟩
    · intro id howned
      obtain ⟨service, hservice, hmark⟩ := howned
      exact ⟨service, (hstored id).trans hservice, hmark⟩
    · intro hsame
      exact hjob (hsame ▸ hends)

end Turn

/-- A synchronisation of a service that is not owned leaves the records and the accepted models
alone. -/
theorem Synced.idle {outcome : Outcome} (h : worker.Synced id outcome) (hfree : ¬worker.Owned id) :
    outcome.1.allocator = worker.allocator ∧ outcome.1.pusher = worker.pusher := by
  cases h with
  | unreadable => exact ⟨rfl, rfl⟩
  | absent => exact ⟨rfl, rfl⟩
  | ignored => exact ⟨rfl, rfl⟩
  | unmappable hstored _ hmark => exact absurd ⟨_, hstored, hmark⟩ hfree
  | unaddressed hstored _ hmark => exact absurd ⟨_, hstored, hmark⟩ hfree
  | settled hstored _ hmark => exact absurd ⟨_, hstored, hmark⟩ hfree
  | tried hstored hattempt htried =>
    cases hattempt with
    | takeOver => cases htried <;> exact ⟨rfl, rfl⟩
    | withdraw _ hmark => exact absurd ⟨_, hstored, hmark⟩ hfree
    | release _ hmark => exact absurd ⟨_, hstored, hmark⟩ hfree
    | stale _ hmark => exact absurd ⟨_, hstored, hmark⟩ hfree
    | commit _ hmark => exact absurd ⟨_, hstored, hmark⟩ hfree
    | clearFirst _ hmark => exact absurd ⟨_, hstored, hmark⟩ hfree
    | publish _ hmark => exact absurd ⟨_, hstored, hmark⟩ hfree

/-- A push is accepted, and then the accepted model describes the worker, or it fails. -/
theorem run_pushConfig (hworker : worker.Grounded) :
    (worker.run .pushConfig).2 ≠ none ∨
      (worker.run .pushConfig).1.Describes (worker.run .pushConfig).1.lastAccepted := by
  have hupkeep := worker.upkeep .pushConfig trivial
  generalize worker.run .pushConfig = outcome at hupkeep ⊢
  cases hupkeep with
  | ungenerated => exact Or.inl (Option.some_ne_none _)
  | unpushed => exact Or.inl (Option.some_ne_none _)
  | @pushed model pusher hmodel hpush =>
    right
    have hdescribes := describes_of_generate hworker hmodel
    have hlast : pusher.received.getLast?.getD {} = model := by
      unfold Pusher.push at hpush
      split at hpush
      · cases hpush
      · cases hpush
        simp
    simp only [lastAccepted, hlast]
    exact hdescribes

/-- Following the ports on offer keeps the records, or it asks for a push. -/
theorem run_syncAvailablePorts (worker : Worker) :
    worker.Idle (worker.run .syncAvailablePorts).1 ∨
      (worker.jobs.queue.shuttingDown = false →
        (worker.run .syncAvailablePorts).1.jobs.Waits .pushConfig) := by
  have hupkeep := worker.upkeep .syncAvailablePorts trivial
  generalize worker.run .syncAvailablePorts = outcome at hupkeep ⊢
  cases hupkeep with
  | unlisted => exact Or.inl ⟨fun _ => rfl, fun _ => rfl, rfl⟩
  | adjusted =>
    by_cases hevicted : worker.evicted = []
    · refine Or.inl ⟨fun id => ?_, fun _ => rfl, rfl⟩
      rw [Allocator.records_track, Allocator.records_setAvailable]
      split
      · next hstranded =>
        -- A service that is evicted would be listed.
        have hfree : id ∉ worker.allocator.records := by
          intro hmapped
          have hlisted : id ∈ worker.evicted :=
            (worker.allocator.mem_evicted_iff _ id).mpr ⟨hmapped, hstranded⟩
          rw [hevicted] at hlisted
          cases hlisted
        exact (Std.ExtTreeMap.getElem?_eq_none hfree).symm
      · rfl
    · refine Or.inr fun hopen => ?_
      exact DelayQueue.waits_addAll hopen (pushConfig_mem_followUps hevicted)

/-- A synchronisation of an owned service makes a push due, and any other one changes nothing that
is described. -/
theorem Settles.covered_sync {rest : DelayQueue Job} (hworker : worker.Grounded)
    (htake : worker.jobs.take = some (.syncService id, rest))
    (hsettles : worker.Settles (.syncService id)
      ((worker.withJobs rest).run (.syncService id)) after)
    (hopen : after.jobs.queue.shuttingDown = false) (h : worker.Covered) : after.Covered := by
  have hsynced := (worker.withJobs rest).syncService_synced hworker.cluster id
  rcases hsynced.stored_cases hworker.cluster with
    hsame | ⟨service, target, hservice, hne, hget, htarget⟩
  · by_cases howned : worker.Owned id
    · right
      obtain ⟨service, hservice, hmark⟩ := howned
      have hunchanged := (hsame id).trans hservice
      rcases hsynced.progress hservice hmark hunchanged hworker.cluster with hfailed | ⟨-, hpush⟩
      · have howned : after.Owned id := ⟨service, (hsettles.get?_eq id).trans hunchanged, hmark⟩
        exact ⟨.syncService id, howned, hsettles.requeued hopen hfailed⟩
      · exact hsettles.pushDue_of_waits hworker hopen hpush
    · obtain ⟨hallocator, hpusher⟩ := hsynced.idle howned
      have hidle :
          (worker.withJobs rest).Idle ((worker.withJobs rest).run (.syncService id)).1 := by
        refine ⟨fun other => ?_, hsame, hpusher⟩
        exact congrArg (fun allocator : Allocator => allocator.records[other]?) hallocator
      exact hsettles.covered_of_same hworker htake hopen hidle howned h
  · right
    have htarget' : after.cluster.store.get? id = some target :=
      (hsettles.get?_eq id).trans ((hget id).trans (if_pos rfl))
    rcases htarget with hmark | ⟨-, hpush⟩
    · refine ⟨.syncService id, ⟨target, htarget', hmark⟩, ?_⟩
      refine hsettles.told hopen id target htarget' fun hbefore => hne ?_
      exact Option.some.inj (hbefore.symm.trans hservice)
    · exact hsettles.pushDue_of_waits hworker hopen hpush

/-- Every turn keeps what is covered. -/
theorem Settles.covered {job : Job} {rest : DelayQueue Job} (hworker : worker.Grounded)
    (htake : worker.jobs.take = some (job, rest))
    (hsettles : worker.Settles job ((worker.withJobs rest).run job) after)
    (hopen : after.jobs.queue.shuttingDown = false) (h : worker.Covered) : after.Covered := by
  have hground : (worker.withJobs rest).Grounded := ⟨hworker.pool, hworker.cluster⟩
  cases job with
  | syncService id => exact hsettles.covered_sync hworker htake hopen h
  | removeService id annotations =>
    by_cases hmark : Annotations.isManaged annotations = true
    · right
      exact hsettles.pushDue_of_waits hworker hopen
        ((worker.withJobs rest).run_removeService id hmark).2
    · have hidle : (worker.withJobs rest).Idle
          ((worker.withJobs rest).run (.removeService id annotations)).1 := by
        simp only [run, removeService, if_neg hmark]
        exact ⟨fun _ => rfl, fun _ => rfl, rfl⟩
      exact hsettles.covered_of_same hworker htake hopen hidle hmark h
  | removeCleanupBarrier =>
    have hidle : (worker.withJobs rest).Idle ((worker.withJobs rest).run .removeCleanupBarrier).1 :=
      ⟨fun _ => rfl, fun _ => rfl, rfl⟩
    exact hsettles.covered_of_same hworker htake hopen hidle (fun hends => hends) h
  | cleanup =>
    have hidle := (worker.withJobs rest).run_cleanup
    exact hsettles.covered_of_same hworker htake hopen hidle (fun hends => hends) h
  | pushConfig =>
    rcases run_pushConfig hground with hfailed | hdescribes
    · exact Or.inr ⟨.pushConfig, trivial, hsettles.requeued hopen hfailed⟩
    · left
      rw [lastAccepted, hsettles.pusher]
      refine hdescribes.of_eq ?_ ?_ (fun id _ => ?_) ?_
      · rw [hsettles.cluster]
      · rw [hsettles.allocator]
      · rw [hsettles.cluster]
      · rw [hsettles.pool]
        exact fun _ _ _ hgiven => hgiven
  | syncAvailablePorts =>
    rcases (worker.withJobs rest).run_syncAvailablePorts with hidle | hpush
    · exact hsettles.covered_of_same hworker htake hopen hidle (fun hends => hends) h
    · exact Or.inr (hsettles.pushDue_of_waits hworker hopen hpush)

/-- Putting a service makes a push due if the service is mapped, and otherwise changes nothing that
is described. -/
theorem covered_put {service : Service} (hrule : worker.KeepsMark (.put service))
    (hopen : worker.jobs.queue.shuttingDown = false)
    (hmarked : ∀ id, worker.Mapped id → worker.Owned id ∨ worker.Leaving id) (h : worker.Covered) :
    (worker.after (.put service)).Covered := by
  have hget (id : ServiceId) : (worker.after (.put service)).cluster.store.get? id =
      if id = service.id then
        some { service with version := worker.cluster.store.versionOf service.id + 1 }
      else worker.cluster.store.get? id :=
    worker.get?_after_put service id
  have howned (id : ServiceId) (hid : worker.Owned id) :
      (worker.after (.put service)).Owned id := by
    obtain ⟨stored, hstored, hmark⟩ := hid
    by_cases hsame : id = service.id
    · subst hsame
      exact ⟨_, (hget _).trans (if_pos rfl), hrule stored hstored hmark⟩
    · exact ⟨stored, (hget id).trans ((if_neg hsame).trans hstored), hmark⟩
  have hwaits := (worker.jobs.extends_add (.syncService service.id)).waits hopen
  by_cases hmapped : worker.Mapped service.id
  · right
    rcases hmarked _ hmapped with hown | ⟨annotations, hannotations, hwait⟩
    · exact ⟨.syncService service.id, howned _ hown, DelayQueue.waits_add hopen _⟩
    · exact ⟨.removeService service.id annotations, hannotations, hwaits _ hwait⟩
  · have hports (id : ServiceId) (hid : worker.Mapped id) :
        ((worker.after (.put service)).cluster.store.get? id).map Service.ports =
          (worker.cluster.store.get? id).map Service.ports := by
      have hne : id ≠ service.id := fun hsame => hmapped (hsame ▸ hid)
      rw [hget, if_neg hne]
    have hsame : worker.SameModel (worker.after (.put service)) :=
      ⟨fun _ => rfl, rfl, hports, fun _ _ _ hgiven => hgiven, rfl⟩
    exact h.frame hsame fun hdue => hdue.mono hwaits howned

/-- Deleting a marked service makes a push due, and deleting an unmarked one changes nothing that is
described, unless its removal waits already. -/
theorem covered_delete (hopen : worker.jobs.queue.shuttingDown = false)
    (hmarked : ∀ id, worker.Mapped id → worker.Owned id ∨ worker.Leaving id) (h : worker.Covered) :
    (worker.after (.delete id)).Covered := by
  cases hstored : worker.cluster.store.get? id with
  | none =>
    rwa [after_delete_of_absent hstored]
  | some deleted =>
    rw [after_delete_of_stored hstored]
    have hwaits := (worker.jobs.extends_add (.removeService id deleted.annotations)).waits hopen
    have hget (other : ServiceId) (hne : other ≠ id) :
        (worker.cluster.store.delete id).2.get? other = worker.cluster.store.get? other := by
      rw [Store.get?_delete, if_neg hne]
    by_cases hmark : deleted.isManaged = true
    · exact Or.inr ⟨.removeService id deleted.annotations, hmark, DelayQueue.waits_add hopen _⟩
    · have hfree : ¬worker.Owned id := by
        intro howned
        obtain ⟨service, hservice, hmark'⟩ := howned
        cases hstored.symm.trans hservice
        exact hmark hmark'
      by_cases hmapped : worker.Mapped id
      · obtain ⟨annotations, hannotations, hwait⟩ := (hmarked id hmapped).resolve_left hfree
        exact Or.inr ⟨.removeService id annotations, hannotations, hwaits _ hwait⟩
      · refine h.frame ⟨fun _ => rfl, rfl, fun other hother => ?_, fun _ _ _ hgiven => hgiven, rfl⟩
          fun hdue => hdue.mono hwaits ?_
        · exact congrArg (Option.map Service.ports)
            (hget other fun hsame => hmapped (hsame ▸ hother))
        · intro other howned
          obtain ⟨service, hservice, hmark'⟩ := howned
          have hne : other ≠ id := fun hsame => hfree (hsame ▸ ⟨service, hservice, hmark'⟩)
          exact ⟨service, (hget other hne).trans hservice, hmark'⟩

/-- Everything that the rule permits keeps what is covered. -/
theorem covered_after {happening : Happening} (h : worker.Covered) (hworker : worker.Grounded)
    (hrule : worker.KeepsMark happening)
    (hopen : (worker.after happening).jobs.queue.shuttingDown = false)
    (hmarked : ∀ id, worker.Mapped id → worker.Owned id ∨ worker.Leaving id) :
    (worker.after happening).Covered := by
  have hopen' := (queue_after hworker.cluster happening).2 hopen
  have hpool := hworker.keepsAddresses happening
  have hdue (hturn : happening ≠ .turn) (hshut : happening ≠ .shutDown)
      (hstored : ∀ id, (worker.after happening).cluster.store.get? id =
        worker.cluster.store.get? id) (hdue : worker.PushDue) :
      (worker.after happening).PushDue := by
    refine hdue.mono ((extends_after hworker.cluster hturn hshut).waits hopen') ?_
    intro id howned
    obtain ⟨service, hservice, hmark⟩ := howned
    exact ⟨service, (hstored id).trans hservice, hmark⟩
  cases happening with
  | put service => exact covered_put hrule hopen' hmarked h
  | delete id => exact covered_delete hopen' hmarked h
  | setNodes nodes => exact Or.inr ⟨.pushConfig, trivial, DelayQueue.waits_add hopen' _⟩
  | turn =>
    rcases worker.turn_cases with heq | ⟨job, rest, htake, hsettles⟩
    · rwa [heq]
    · exact hsettles.covered hworker htake hopen h
  | execute job => exact hrule.elim
  | shutDown => cases hopen
  | _ =>
    exact h.frame ⟨fun _ => rfl, rfl, fun _ _ => rfl, hpool, rfl⟩
      (hdue (by simp) (by simp) fun _ => rfl)

/-- Where users keep the marks, only jobs from the queue are executed. -/
theorem Follows.fromQueue {start : Worker} {history : List Happening}
    (h : start.Follows KeepsMark history) : start.Follows FromQueue history := by
  induction history with
  | nil => trivial
  | cons happening earlier ih =>
    refine ⟨ih h.1, ?_⟩
    cases happening with
    | execute job => exact h.2
    | _ => trivial

/-- Where users keep the marks, no mark is taken off. -/
theorem Follows.not_withdrawn {start : Worker} {history : List Happening}
    (h : start.Follows KeepsMark history) : ¬start.Withdrawn id history := by
  induction history with
  | nil => exact fun hgone => hgone
  | cons happening earlier ih =>
    intro hwithdrawn
    rcases hwithdrawn with ⟨⟨stored, hstored, hmark⟩, service, rfl, rfl, hfree⟩ | ⟨hgone, -⟩
    · have hkept := h.2 stored hstored hmark
      rw [hfree] at hkept
      cases hkept
    · exact ih h.1 hgone

/-- Throughout a history, every difference between the accepted model and the state of the worker is
covered. -/
theorem Starting.covered {start : Worker} (hstart : start.Starting)
    (hreceived : start.pusher.received = []) {history : List Happening}
    (hhistory : start.Follows KeepsMark history)
    (hopen : (start.through history).jobs.queue.shuttingDown = false) :
    (start.through history).Covered := by
  induction history with
  | nil =>
    left
    have hlast : start.lastAccepted = {} := by
      rw [lastAccepted, hreceived]
      rfl
    change start.Describes start.lastAccepted
    rw [hlast]
    exact describes_of_records_eq_empty hstart.records
  | cons happening earlier ih =>
    have hworker := (hstart.orderly earlier).1
    have hopen' := (queue_after hworker.cluster happening).2 hopen
    refine covered_after (ih hhistory.1 hopen') hworker hhistory.2 hopen fun id hmapped => ?_
    have hjustified := hstart.justified hhistory.1.fromQueue hopen' hmapped
    rcases hjustified.resolve_right hhistory.1.not_withdrawn with ⟨service, hservice, hmark, -⟩ | h
    · exact Or.inl ⟨service, hservice, hmark⟩
    · exact Or.inr h

/-- The configuration reaches the agents: once the queue is quiescent, a model that is generated
from the present state is the one that was accepted last. -/
theorem generated_eq_lastAccepted {start : Worker} (hstart : start.Starting)
    (hreceived : start.pusher.received = []) {history : List Happening}
    (hhistory : start.Follows KeepsMark history)
    (hquiescent : (start.through history).jobs.Quiescent) {model : ForwardingModel}
    (hmodel : (start.through history).modelSource.generate
      (start.through history).allocator.assignment = .ok model) :
    model = (start.through history).lastAccepted := by
  obtain ⟨hworker, hqueue⟩ := hstart.orderly history
  have hwaits := hquiescent.not_waits hqueue
  have hdescribes := describes_of_generate hworker hmodel
  rcases hstart.covered hreceived hhistory hquiescent.accepting with
    haccepted | ⟨job, -, hwait⟩
  · exact hdescribes.unique haccepted
  · exact absurd hwait (hwaits job)

/-- A node joins and a service is put, the writes of the store fail for a while, and all jobs are
executed. -/
def delivered : List Happening :=
  [.turn, .turn, .turn, .turn, .turn, .turn, .reach 10, .failWrites false, .turn, .turn,
    .failWrites true,
    .put (.loadBalancer ⟨"ns", "web"⟩ [{ protocol := .tcp, port := 80, nodePort := some 30080 }]),
    .setNodes ["192.168.0.2"]]

/-- The agents accepted the forwards of the service. -/
theorem generated_eq_lastAccepted_delivered :
    (sample.through delivered).lastAccepted =
      { ingress := [{
          address := "10.0.0.1"
          forwards := [{
            protocol := .tcp
            inboundPort := 80
            destinations := ["192.168.0.2"]
            destinationPort := 30080 }] }] } := by
  have hput : KeepsMark (sample.after (.setNodes ["192.168.0.2"]))
      (.put (.loadBalancer ⟨"ns", "web"⟩
        [{ protocol := .tcp, port := 80, nodePort := some 30080 }])) := by
    intro stored hstored
    simp [Worker.after, withStore, enqueue, sample, start, publish, Store.get?] at hstored
  have hhistory : sample.Follows KeepsMark delivered := by
    refine ⟨⟨⟨⟨⟨⟨⟨⟨⟨⟨⟨⟨⟨trivial, ?_⟩, hput⟩, ?_⟩, ?_⟩, ?_⟩, ?_⟩, ?_⟩, ?_⟩, ?_⟩, ?_⟩, ?_⟩, ?_⟩, ?_⟩
    all_goals trivial
  refine (generated_eq_lastAccepted starting_sample rfl hhistory ?_ ?_).symm
  · decide +kernel
  · decide +kernel

end Worker

end Balancer
