import Mathlib
import Balancer.Proofs.Worker.History

/-!
# What a synchronisation writes

A synchronisation tries at most one update of the store. An update that is stored is followed by one
event, and one that is refused by none. So a run that fails leaves every object and the log alone,
and retrying it logs nothing until it succeeds.

There is one exception. When a bound service without a status is given up, the end of its mapping is
logged before the update that removes its annotations. If the update is refused, the event stays,
and every further attempt logs it again.

Nothing is assumed about the surroundings: the store may hold anything, and the cache may be behind.
-/

namespace Balancer

/-- Whether a store becomes another one by one update, of the annotations or of the status. -/
def Store.Wrote (before : Store) (object : Service) (after : Store) : Prop :=
  ∃ written, before.update object = .ok (written, after) ∨
    before.updateStatus object = .ok (written, after)

/-- The cluster with further events in its log. -/
def Cluster.logged (cluster : Cluster) (events : List (ServiceId × ServiceEvent)) : Cluster :=
  { cluster with store := { cluster.store with events := cluster.store.events ++ events } }

/-- No further events leave the cluster as it is. -/
theorem Cluster.logged_nil (cluster : Cluster) : cluster.logged [] = cluster := by
  unfold logged
  rw [List.append_nil]

/-- A write takes no notice of the log. -/
theorem Store.write_events (store : Store) (events : List (ServiceId × ServiceEvent))
    (basis : Service) (change : Service → Service) :
    ({ store with events } : Store).write basis change =
      (store.write basis change).map fun written => (written.1, { written.2 with events }) := by
  have hget : ({ store with events } : Store).get? basis.id = store.get? basis.id := rfl
  unfold write
  rw [hget]
  cases store.writesFailing with
  | true => rfl
  | false =>
    cases store.get? basis.id with
    | none => rfl
    | some stored =>
      by_cases hversion : stored.version = basis.version
      · simp only [if_pos hversion]
        rfl
      · simp only [if_neg hversion]
        rfl

/-- An update takes no notice of the log. -/
theorem Store.Wrote.of_events {store after : Store} {events : List (ServiceId × ServiceEvent)}
    {object : Service} (h : ({ store with events } : Store).Wrote object after) :
    ∃ other, store.Wrote object other ∧ after = { other with events } := by
  obtain ⟨written, hupdate | hupdate⟩ := h
  · unfold update at hupdate
    rw [write_events] at hupdate
    obtain ⟨⟨_, other⟩, hwrite, heq⟩ := map_eq_ok hupdate
    cases heq
    exact ⟨other, ⟨_, Or.inl hwrite⟩, rfl⟩
  · unfold updateStatus at hupdate
    rw [write_events] at hupdate
    obtain ⟨⟨_, other⟩, hwrite, heq⟩ := map_eq_ok hupdate
    cases heq
    exact ⟨other, ⟨_, Or.inr hwrite⟩, rfl⟩

/-- An update does not log anything. -/
theorem Store.Wrote.events_eq {before after : Store} {object : Service}
    (h : before.Wrote object after) : after.events = before.events := by
  obtain ⟨written, hupdate | hupdate⟩ := h
  · obtain ⟨-, _, -, -, -, rfl⟩ := (before.write_eq_ok_iff after object written _).mp hupdate
    rfl
  · obtain ⟨-, _, -, -, -, rfl⟩ := (before.write_eq_ok_iff after object written _).mp hupdate
    rfl

namespace Worker

/-- What becomes of an update: it is refused, or it is one write of the store. -/
inductive Persists (worker : Worker) (object : Service) : Outcome → Prop where
  | refused (error : StoreError) : Persists worker object (worker, some (.store error))
  | stored {store : Store} (hwrote : worker.cluster.store.Wrote object store) :
      Persists worker object (worker.withStore store, none)

/-- The annotations of an object are persisted by one write, or not at all. -/
theorem persists_updateService (worker : Worker) (object : Service) :
    worker.Persists object (worker.updateService object) := by
  unfold updateService
  split
  · next error _ => exact .refused error
  · next cluster hcluster =>
    obtain ⟨⟨written, store⟩, hwrite, rfl⟩ := map_eq_ok hcluster
    exact .stored ⟨written, Or.inl hwrite⟩

/-- The status of an object is persisted by one write, or not at all. -/
theorem persists_updateStatus (worker : Worker) (object : Service) :
    worker.Persists object (worker.updateStatus object) := by
  unfold updateStatus
  split
  · next error _ => exact .refused error
  · next cluster hcluster =>
    obtain ⟨⟨written, store⟩, hwrite, rfl⟩ := map_eq_ok hcluster
    exact .stored ⟨written, Or.inr hwrite⟩

/-- What a part of a job does to a cluster and a queue: after some early events it writes nothing,
or it makes one write and logs one event. At most it asks for a push. -/
inductive Transacts (cluster : Cluster) (jobs : DelayQueue Job)
    (early : List (ServiceId × ServiceEvent)) : Outcome → Prop where
  | unwritten {after : Worker} {failure : Option JobError} (hearly : failure = none → early = [])
      (hcluster : after.cluster = cluster.logged early)
      (hjobs : after.jobs = jobs ∨ after.jobs = jobs.add .pushConfig) :
      Transacts cluster jobs early (after, failure)
  | written {after : Worker} {object : Service} {store : Store} (event : ServiceEvent)
      (hwrote : cluster.store.Wrote object store)
      (hcluster : after.cluster =
        ({ cluster with store } : Cluster).logged (early ++ [(object.id, event)]))
      (hjobs : after.jobs = jobs ∨ after.jobs = jobs.add .pushConfig) :
      Transacts cluster jobs early (after, none)

/-- What follows an update that was stored: one event is logged, and at most a push is asked for. -/
structure Concludes (object : Service) (next : Worker → Outcome) : Prop where
  failure : ∀ worker, (next worker).2 = none
  cluster : ∃ event, ∀ worker, (next worker).1.cluster = worker.cluster.record object.id event
  jobs : ∀ worker, (next worker).1.jobs = worker.jobs ∨
    (next worker).1.jobs = worker.jobs.add .pushConfig

variable {worker : Worker} {cluster : Cluster} {early : List (ServiceId × ServiceEvent)}

/-- An update with what follows it is one transaction, after the events that were logged before. -/
theorem Persists.transacts {object : Service} {outcome : Outcome}
    (h : worker.Persists object outcome) (hcluster : worker.cluster = cluster.logged early)
    {next : Worker → Outcome} (hnext : Concludes object next) :
    Transacts cluster worker.jobs early (followedBy outcome next) := by
  cases h with
  | refused error => exact .unwritten nofun hcluster (Or.inl rfl)
  | @stored store hwrote =>
    rw [hcluster] at hwrote
    obtain ⟨other, hother, rfl⟩ := hwrote.of_events
    obtain ⟨event, hafter⟩ := hnext.cluster
    let stored := worker.withStore { other with events := cluster.store.events ++ early }
    have hjobs := hnext.jobs stored
    have houtcome : next stored = ((next stored).1, none) := Prod.ext rfl (hnext.failure stored)
    change Transacts cluster worker.jobs early (next stored)
    rw [houtcome]
    refine .written event hother ((hafter stored).trans ?_) hjobs
    simp only [stored, Cluster.record, Store.record, Cluster.logged, withStore, hcluster,
      hother.events_eq, List.append_assoc]

/-- A part of a job that neither writes nor logs. -/
theorem transacts_of_eq {after : Worker} (failure : Option JobError)
    (hcluster : after.cluster = worker.cluster)
    (hjobs : after.jobs = worker.jobs ∨ after.jobs = worker.jobs.add .pushConfig) :
    Transacts worker.cluster worker.jobs [] (after, failure) :=
  .unwritten (fun _ => rfl) (hcluster.trans worker.cluster.logged_nil.symm) hjobs

/-- Withdrawing a status is one transaction. -/
theorem transacts_clearStatus (worker : Worker) (service : Service) (event : ServiceEvent) :
    Transacts worker.cluster worker.jobs [] (worker.clearStatus service event) := by
  refine (worker.persists_updateStatus _).transacts worker.cluster.logged_nil.symm ?_
  exact ⟨fun _ => rfl, ⟨_, fun _ => rfl⟩, fun _ => Or.inl rfl⟩

/-- Taking a service over is one transaction. -/
theorem transacts_takeOver (worker : Worker) (service : Service) :
    Transacts worker.cluster worker.jobs [] (worker.takeOver service) := by
  refine (worker.persists_updateService _).transacts worker.cluster.logged_nil.symm ?_
  exact ⟨fun _ => rfl, ⟨_, fun _ => rfl⟩, fun _ => Or.inl rfl⟩

/-- Recording a port is one transaction. -/
theorem transacts_commitPort (worker : Worker) (service : Service) (previous : Option String)
    (portId : String) :
    Transacts worker.cluster worker.jobs [] (worker.commitPort service previous portId) := by
  refine (worker.persists_updateService _).transacts worker.cluster.logged_nil.symm ?_
  exact ⟨fun _ => rfl, ⟨_, fun _ => rfl⟩, fun _ => Or.inl rfl⟩

/-- The events that a synchronisation logs before it tries its update: the end of the mapping of a
bound service that is given up and has no status. -/
def premature (worker : Worker) (id : ServiceId) : List (ServiceId × ServiceEvent) :=
  match worker.cluster.service id with
  | .ok (some service) =>
    if service.canManage = false ∧ service.isManaged = true ∧ service.hasIngress = false ∧
      service.boundPort.isSome then [(service.id, .unmapped)]
    else []
  | _ => []

/-- Giving a service up is one transaction, after the end of a mapping was logged. -/
theorem transacts_release (worker : Worker) (service : Service) :
    Transacts worker.cluster worker.jobs
      (if service.hasIngress = false ∧ service.boundPort.isSome then [(service.id, .unmapped)]
        else [])
      (worker.release service) := by
  unfold release
  cases hstatus : service.hasIngress with
  | true =>
    rw [if_pos rfl, if_neg nofun]
    exact worker.transacts_clearStatus service _
  | false =>
    rw [if_neg Bool.false_ne_true]
    have hnext : Concludes service.disown fun worker =>
        ((worker.record service.id .released).enqueue .pushConfig, none) :=
      ⟨fun _ => rfl, ⟨_, fun _ => rfl⟩, fun _ => Or.inr rfl⟩
    let unmapped : Worker := { worker with allocator := worker.allocator.unmap service.id }
    cases service.boundPort.isSome with
    | true =>
      have hlogged : (unmapped.record service.id .unmapped).cluster =
          worker.cluster.logged [(service.id, .unmapped)] := rfl
      exact (persists_updateService _ _).transacts hlogged hnext
    | false =>
      exact (unmapped.persists_updateService _).transacts worker.cluster.logged_nil.symm hnext

/-- Publishing a status is at most one transaction, which may be followed by a push. -/
theorem transacts_refreshStatus (worker : Worker) (service : Service) :
    Transacts worker.cluster worker.jobs []
      (followedBy (worker.refreshStatus service) fun worker =>
        (worker.enqueue .pushConfig, none)) := by
  unfold refreshStatus
  split
  · exact transacts_of_eq _ rfl (Or.inl rfl)
  · split
    · exact transacts_of_eq _ rfl (Or.inl rfl)
    · next address _ =>
      split
      · exact transacts_of_eq _ rfl (Or.inr rfl)
      · have hpersists := worker.persists_updateStatus
          { service with ingress := statusFor address }
        have hnext : Concludes { service with ingress := statusFor address } fun worker =>
            ((worker.record service.id (.assigned address.ip)).enqueue .pushConfig, none) :=
          ⟨fun _ => rfl, ⟨_, fun _ => rfl⟩, fun _ => Or.inr rfl⟩
        have htransacts := hpersists.transacts worker.cluster.logged_nil.symm hnext
        generalize worker.updateStatus _ = outcome at htransacts ⊢
        obtain ⟨after, failure⟩ := outcome
        cases failure <;> exact htransacts

/-- Bringing a managed service up to date is at most one transaction. -/
theorem transacts_syncManaged (worker : Worker) (service : Service) :
    Transacts worker.cluster worker.jobs [] (worker.syncManaged service) := by
  simp only [syncManaged]
  split
  · exact worker.transacts_clearStatus service _
  · split
    · exact transacts_of_eq _ rfl (Or.inl rfl)
    · next portId allocator pool _ =>
      let mapped : Worker := { worker with pool, allocator }
      split
      · exact mapped.transacts_refreshStatus service
      · exact mapped.transacts_commitPort service _ portId
      · exact mapped.transacts_clearStatus service _

/-- A synchronisation is at most one transaction, and only the end of a mapping is logged early. -/
theorem transacts_syncService (worker : Worker) (id : ServiceId) :
    Transacts worker.cluster worker.jobs (worker.premature id) (worker.syncService id) := by
  simp only [syncService, premature]
  rcases worker.cluster.service id with error | _ | service
  · exact transacts_of_eq _ rfl (Or.inl rfl)
  · exact transacts_of_eq _ rfl (Or.inl rfl)
  · cases hkind : service.canManage <;> cases hmark : service.isManaged
    · simp only [Bool.false_eq_true, false_and, and_false, if_false, hkind, hmark]
      exact transacts_of_eq _ rfl (Or.inl rfl)
    · simp only [true_and, hkind, hmark]
      exact worker.transacts_release service
    · simp only [Bool.true_eq_false, false_and, if_false, hkind, hmark]
      exact worker.transacts_takeOver service
    · simp only [Bool.true_eq_false, false_and, if_false, hkind, hmark]
      exact worker.transacts_syncManaged service

/-- What a service is read as decides about the events that are logged early. -/
theorem premature_congr {other : Worker} {id : ServiceId}
    (h : other.cluster.service id = worker.cluster.service id) :
    other.premature id = worker.premature id := by
  unfold premature
  rw [h]

/-- A synchronisation is run over and over, and fails each time. Between the runs anything may
happen that leaves the service, as it is read, and the log alone. -/
inductive Retried (id : ServiceId) (start : Worker) : Nat → Worker → Prop where
  | start : Retried id start 0 start
  | meanwhile {count : Nat} {worker after : Worker} (h : Retried id start count worker)
      (hread : after.cluster.service id = worker.cluster.service id)
      (hlog : after.cluster.store.events = worker.cluster.store.events) :
      Retried id start count after
  | retry {count : Nat} {worker : Worker} (h : Retried id start count worker)
      (hfailed : (worker.run (.syncService id)).2 ≠ none) :
      Retried id start (count + 1) (worker.execute (.syncService id))

/-- A synchronisation that fails leaves the cluster alone but for the events that are logged
early. -/
theorem cluster_of_failed {id : ServiceId} (hfailed : (worker.run (.syncService id)).2 ≠ none) :
    (worker.run (.syncService id)).1.cluster = worker.cluster.logged (worker.premature id) := by
  have htransacts : Transacts worker.cluster worker.jobs (worker.premature id)
      (worker.run (.syncService id)) := worker.transacts_syncService id
  generalize worker.run (.syncService id) = outcome at htransacts hfailed ⊢
  cases htransacts with
  | unwritten _ hcluster _ => exact hcluster
  | written => exact absurd rfl hfailed

/-- A synchronisation that succeeds writes nothing and logs nothing, or it makes one write and logs
one event, besides those that are logged early. -/
theorem cluster_of_succeeded {id : ServiceId} (h : (worker.run (.syncService id)).2 = none) :
    (worker.run (.syncService id)).1.cluster = worker.cluster ∨
      ∃ object store event, worker.cluster.store.Wrote object store ∧
        (worker.run (.syncService id)).1.cluster = ({ worker.cluster with store } : Cluster).logged
          (worker.premature id ++ [(object.id, event)]) := by
  have htransacts : Transacts worker.cluster worker.jobs (worker.premature id)
      (worker.run (.syncService id)) := worker.transacts_syncService id
  generalize worker.run (.syncService id) = outcome at htransacts h ⊢
  cases htransacts with
  | unwritten hearly hcluster _ =>
    rw [hearly h, worker.cluster.logged_nil] at hcluster
    exact Or.inl hcluster
  | @written after object store event hwrote hcluster _ =>
    exact Or.inr ⟨object, store, event, hwrote, hcluster⟩

/-- Each retry that fails logs the early events once more, and nothing else. -/
theorem Retried.events_eq {id : ServiceId} {start after : Worker} {count : Nat}
    (h : start.Retried id count after) :
    after.cluster.service id = start.cluster.service id ∧
      after.cluster.store.events =
        start.cluster.store.events ++ (List.replicate count (start.premature id)).flatten := by
  induction h with
  | start => exact ⟨rfl, (List.append_nil _).symm⟩
  | meanwhile _ hread hlog ih => exact ⟨hread.trans ih.1, hlog.trans ih.2⟩
  | @retry count worker _ hfailed ih =>
    obtain ⟨hread, hevents⟩ := ih
    obtain ⟨jobs, published, history, hexecute, -, -⟩ := worker.execute_eq (.syncService id)
    have hcluster : (worker.execute (.syncService id)).cluster =
        worker.cluster.logged (start.premature id) := by
      rw [hexecute, ← premature_congr hread]
      exact cluster_of_failed hfailed
    rw [hcluster]
    refine ⟨hread, ?_⟩
    rw [List.replicate_succ', List.flatten_concat, ← List.append_assoc, ← hevents]
    rfl

/-- A synchronisation that fails leaves every object alone, and it leaves the log alone exactly if
no bound service without a status is given up. One that succeeds makes at most one write, and logs
one event for it besides the early ones. Retrying a synchronisation that fails logs the early events
once for each retry, and nothing else. -/
theorem failed_sync_invisible_iff (worker : Worker) (id : ServiceId) :
    ((worker.run (.syncService id)).2 ≠ none →
      (worker.run (.syncService id)).1.cluster = worker.cluster.logged (worker.premature id) ∧
      ((worker.run (.syncService id)).1.cluster = worker.cluster ↔ worker.premature id = [])) ∧
    ((worker.run (.syncService id)).2 = none →
      (worker.run (.syncService id)).1.cluster = worker.cluster ∨
      ∃ object store event, worker.cluster.store.Wrote object store ∧
        (worker.run (.syncService id)).1.cluster = ({ worker.cluster with store } : Cluster).logged
          (worker.premature id ++ [(object.id, event)])) ∧
    ∀ count after, worker.Retried id count after →
      after.cluster.service id = worker.cluster.service id ∧
      after.cluster.store.events =
        worker.cluster.store.events ++ (List.replicate count (worker.premature id)).flatten := by
  refine ⟨fun hfailed => ?_, cluster_of_succeeded, fun count after => Retried.events_eq⟩
  have hcluster := cluster_of_failed hfailed
  refine ⟨hcluster, ?_, fun hearly => ?_⟩
  · intro hsame
    have hevents := congrArg (fun cluster => cluster.store.events) (hcluster.symm.trans hsame)
    exact List.append_right_eq_self.mp hevents
  · rw [hcluster, hearly, worker.cluster.logged_nil]

/-- A service is put, taken over, bound and published. Then its user exposes it in another way, its
status is withdrawn, and the store refuses writes from then on. -/
def refusing : List Happening :=
  [.failWrites true, .turn, .turn,
    .put {
      id := ⟨"ns", "web"⟩
      kind := .clusterIp
      annotations := ((∅ : Annotations).insert managedKey "true").insert boundPortKey "port-1"
      ports := [{ protocol := .tcp, port := 80 }]
      ingress := [{ ip := "203.0.113.1" }] },
    .turn, .turn, .turn, .put (.loadBalancer ⟨"ns", "web"⟩ [{ protocol := .tcp, port := 80 }])]

/-- The service is given up in vain, and every attempt logs the end of its mapping. -/
theorem failed_sync_invisible_iff_refused :
    ((sample.through refusing).run (.syncService ⟨"ns", "web"⟩)).2 ≠ none ∧
      ((sample.through refusing).run (.syncService ⟨"ns", "web"⟩)).1.cluster ≠
        (sample.through refusing).cluster ∧
      ∃ after, (sample.through refusing).Retried ⟨"ns", "web"⟩ 2 after ∧
        after.cluster.store.events = (sample.through refusing).cluster.store.events ++
          [(⟨"ns", "web"⟩, .unmapped), (⟨"ns", "web"⟩, .unmapped)] := by
  have hearly : (sample.through refusing).premature ⟨"ns", "web"⟩ =
      [(⟨"ns", "web"⟩, .unmapped)] := by
    decide +kernel
  have hfirst : ((sample.through refusing).run (.syncService ⟨"ns", "web"⟩)).2 ≠ none := by
    decide +kernel
  have hsecond : (((sample.through refusing).execute (.syncService ⟨"ns", "web"⟩)).run
      (.syncService ⟨"ns", "web"⟩)).2 ≠ none := by
    decide +kernel
  obtain ⟨hfailed, -, hretried⟩ :=
    failed_sync_invisible_iff (sample.through refusing) ⟨"ns", "web"⟩
  have htwice : (sample.through refusing).Retried ⟨"ns", "web"⟩ 2 _ :=
    .retry (.retry .start hfirst) hsecond
  refine ⟨hfirst, fun hsame => ?_, _, htwice, ?_⟩
  · rw [(hfailed hfirst).2, hearly] at hsame
    cases hsame
  · rw [(hretried 2 _ htwice).2, hearly]
    rfl

/-- So not every synchronisation that fails leaves the objects and the log as they were. -/
theorem exists_premature_event :
    ¬∀ (start : Worker) (history : List Happening) (id : ServiceId), start.Starting →
      ((start.through history).run (.syncService id)).2 ≠ none →
        ((start.through history).run (.syncService id)).1.cluster.store.services =
            (start.through history).cluster.store.services ∧
          ((start.through history).run (.syncService id)).1.cluster.store.events =
            (start.through history).cluster.store.events := by
  intro hall
  have hfailed : ((sample.through refusing).run (.syncService ⟨"ns", "web"⟩)).2 ≠ none := by
    decide +kernel
  have hlogged :
      ((sample.through refusing).run (.syncService ⟨"ns", "web"⟩)).1.cluster.store.events ≠
        (sample.through refusing).cluster.store.events := by
    decide +kernel
  exact hlogged (hall sample refusing ⟨"ns", "web"⟩ starting_sample hfailed).2

end Worker

end Balancer
