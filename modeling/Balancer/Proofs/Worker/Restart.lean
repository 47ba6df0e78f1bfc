import Mathlib
import Balancer.Proofs.Worker.Description
import Balancer.Proofs.Worker.Undisturbed

/-!
# Restarts

After a restart the allocator knows at most some ports of the pool, and all that is left of the
mappings is what the annotations of the stored services record. If the recorded numbers do not
collide, every synchronisation of such a service adopts the recorded port, whatever part of the
mappings has been rebuilt before, and writes at most the status.

So the synchronisations rebuild the recorded mappings in any order, and repetitions change nothing.
-/

namespace Balancer

/-- The mapping that the annotations of a stored service record. -/
def Store.recorded (store : Store) (id : ServiceId) : Option Mapping :=
  (store.get? id).bind fun service =>
    if service.isManaged then
      service.boundPort.map fun portId => { portId, ports := service.transportPorts }
    else none

/-- A mapping is recorded by the annotations of a managed service. -/
theorem Store.recorded_eq_some {store : Store} {id : ServiceId} {record : Mapping}
    (h : store.recorded id = some record) :
    ∃ service, store.get? id = some service ∧ service.isManaged = true ∧
      service.boundPort = some record.portId ∧ service.transportPorts = record.ports := by
  obtain ⟨service, hstored, hrecord⟩ := Option.bind_eq_some_iff.mp h
  split at hrecord
  · next hmark =>
    obtain ⟨portId, hbound, rfl⟩ := Option.map_eq_some_iff.mp hrecord
    exact ⟨service, hstored, hmark, hbound, rfl⟩
  · cases hrecord

namespace Service

/-- The service with the one entry for the address as its status. A status that matches is not
written again. -/
def refreshed (service : Service) (address : ExternalAddress) : Service :=
  if service.ingress = [{ ip := address.ip, hostname := address.hostname }] then service
  else renewed
    { service with ingress := [{ ip := address.ip, hostname := address.hostname }] }

variable (service : Service) (address : ExternalAddress)

/-- A refreshed service differs from the former one at most in its status and version. -/
theorem refreshed_eq : ∃ version,
    service.refreshed address =
      { service with
        ingress := [{ ip := address.ip, hostname := address.hostname }]
        version } := by
  unfold refreshed
  split
  · next hmatches => exact ⟨service.version, by rw [← hmatches]⟩
  · exact ⟨service.version + 1, rfl⟩

/-- Refreshing a service twice writes at most once. -/
theorem refreshed_refreshed :
    (service.refreshed address).refreshed address = service.refreshed address := by
  obtain ⟨version, heq⟩ := service.refreshed_eq address
  rw [refreshed, if_pos (by rw [heq])]

end Service

namespace Worker

/-- A worker after a restart: the allocator tracks some ports of the pool and has no records.
Nothing fails, and every managed service may be managed and is bound to a port that is there, such
that the numbers of different services on a port are different. -/
structure Restarted (start : Worker) : Prop where
  pool : start.pool.Reachable
  online : start.pool.Online
  cluster : start.cluster.Direct
  reads : start.cluster.readsFailing = false
  writes : start.cluster.store.writesFailing = false
  tracked : ∃ portIds, (∀ portId ∈ portIds, portId ∈ start.pool.ports) ∧
    start.allocator = Allocator.track {} portIds
  bound : ∀ id service, start.cluster.store.get? id = some service → service.isManaged = true →
    service.canManage = true ∧ ∃ portId ∈ start.pool.ports, service.boundPort = some portId
  apart : ∀ id other record record', id ≠ other →
    start.cluster.store.recorded id = some record →
      start.cluster.store.recorded other = some record' → record.portId = record'.portId →
        ∀ port ∈ record.ports, port.number ∉ record'.ports.map (·.number)

/-- Whether a job belongs to the resumption of the work: it pushes, or it synchronises a service
with a recorded mapping. -/
def resumedBy (start : Worker) : Job → Bool
  | .pushConfig => true
  | .syncService id => (start.cluster.store.recorded id).isSome
  | _ => false

/-- Whether a happening belongs to the resumption: only such jobs are run, nothing comes to fail,
and nobody changes a service or the pool. -/
def Resumes (start worker : Worker) (happening : Happening) : Prop :=
  (∀ base job, worker.handed happening = some (base, job) → start.resumedBy job) ∧
    match happening with
    | .put _ | .delete _ | .failReads _ | .failWrites _ | .changePool _ => False
    | _ => True

/-- A resumption of the work synchronises every service with a recorded mapping at least once. -/
structure Resumption (start : Worker) (history : List Happening) : Prop where
  follows : start.Follows start.Resumes history
  complete : ∀ id, (start.cluster.store.recorded id).isSome →
    start.runs (.syncService id) history ≠ 0

variable {start worker later : Worker} {service : Service} {id : ServiceId} {portId : String}

/-- Nothing fails around a worker after a restart. -/
theorem Restarted.calm (h : start.Restarted) : start.Calm := by
  obtain ⟨portIds, hports, hallocator⟩ := h.tracked
  have hallocation : start.allocation.Reachable := by
    have hcall : Allocation.Permits { allocator := {}, pool := start.pool } (.track portIds) :=
      fun portId hportId => Or.inr (hports portId hportId)
    have hreachable := Allocation.Reachable.call _ (.start h.pool) hcall
    rw [allocation, hallocator]
    exact hreachable
  refine ⟨⟨hallocation, h.cluster⟩, h.reads, h.writes, h.online, fun portId hportId => ?_⟩
  rw [hallocator, Allocator.mem_tracked_track] at hportId
  rcases hportId with hportId | hportId
  · exact h.online.offers_iff.mpr (hports portId hportId)
  · exact absurd hportId Std.ExtTreeMap.not_mem_empty

/-- No service is mapped after a restart. -/
theorem Restarted.not_mapped (h : start.Restarted) (id : ServiceId) : ¬start.Mapped id := by
  obtain ⟨portIds, -, hallocator⟩ := h.tracked
  unfold Mapped
  rw [hallocator, Allocator.records_track]
  exact Std.ExtTreeMap.not_mem_empty

/-- The synchronisation of a service that is mapped to its bound port publishes the address of the
port unless it is published already, and writes nothing else. -/
theorem Calm.syncService_bound (h : worker.Calm)
    (hstored : worker.cluster.store.get? service.id = some service)
    (hkind : service.canManage = true) (hmark : service.isManaged = true)
    (hbound : service.boundPort = some portId) {allocator : Allocator}
    (hmap : worker.allocator.map worker.pool service.id service.transportPorts
      service.boundPort = (.ok (portId, allocator), worker.pool)) :
    (worker.syncService service.id).2 = none ∧
      (worker.syncService service.id).1.allocator = allocator ∧
      (worker.syncService service.id).1.pool = worker.pool ∧
      ∃ address, PortPool.external worker.pool portId = .ok address ∧
        (worker.syncService service.id).1.cluster.store.get? service.id =
          some (service.refreshed address) := by
  have hmaps : worker.Maps service portId { worker with allocator } :=
    ⟨allocator, worker.pool, hmap, rfl⟩
  obtain ⟨address, haddress, hcases⟩ :=
    (h.syncService_advances hstored).refreshes hkind hmark hmaps hbound
  rcases hcases with ⟨hstatus, heq⟩ | ⟨hstatus, events, heq⟩
  · rw [heq]
    refine ⟨rfl, rfl, rfl, address, haddress, ?_⟩
    have hkept : service.refreshed address = service := if_pos hstatus
    rw [hkept]
    exact hstored
  · rw [heq]
    refine ⟨rfl, rfl, rfl, address, haddress, ?_⟩
    have hwritten : service.refreshed address =
        Service.renewed { service with ingress := statusFor address } := if_neg hstatus
    rw [hwritten]
    exact (get?_storing _ _ events _).trans (if_pos rfl)

/-- Where a service stands after a restart: it waits as it was, or it is restored, settled on its
recorded port with the address of the port published. -/
inductive Standing (start worker : Worker) (id : ServiceId) : Prop where
  | waiting (hfree : ¬worker.Mapped id)
      (hget : worker.cluster.store.get? id = start.cluster.store.get? id) : Standing start worker id
  | restored {service : Service} {record : Mapping} {address : ExternalAddress}
      (hstored : start.cluster.store.get? id = some service)
      (hrecord : start.cluster.store.recorded id = some record)
      (hsettled : worker.allocator.Settled id record.ports record.portId)
      (haddress : PortPool.external start.pool record.portId = .ok address)
      (hget : worker.cluster.store.get? id = some (service.refreshed address)) :
      Standing start worker id

/-- What leaves a service as it is leaves it where it stands. -/
theorem Standing.of_spares (h : start.Standing worker id) (hspares : worker.Spares id later) :
    start.Standing later id := by
  cases h with
  | waiting hfree hget =>
    exact .waiting (hspares.unmapped hfree) (hspares.stored.trans hget)
  | restored hstored hrecord hsettled haddress hget =>
    exact .restored hstored hrecord (hspares.settled _ _ hsettled) haddress
      (hspares.stored.trans hget)

/-- A worker that rebuilds its mappings after a restart. Some services are restored, the other ones
wait, and the pool has not moved. -/
structure Rebuilding (start worker : Worker) : Prop where
  calm : worker.Calm
  pool : worker.pool = start.pool
  standing : ∀ id, start.Standing worker id

/-- What leaves every service and the pool as they are does not concern the rebuilding. -/
theorem Rebuilding.of_spares (h : start.Rebuilding worker) (hcalm : later.Calm)
    (hpool : later.pool = worker.pool) (hspares : ∀ id, worker.Spares id later) :
    start.Rebuilding later :=
  ⟨hcalm, hpool.trans h.pool, fun id => (h.standing id).of_spares (hspares id)⟩

/-- A service that waits may adopt its recorded port whatever has been rebuilt before, because the
numbers that others have taken there are different. -/
theorem Rebuilding.map_eq (h : start.Rebuilding worker) (hstart : start.Restarted)
    {record : Mapping} (hrecord : start.cluster.store.recorded id = some record)
    (hfree : ¬worker.Mapped id) :
    worker.allocator.map worker.pool id record.ports (some record.portId) =
      (.ok (record.portId, worker.allocator.bind id record.ports record.portId), worker.pool) := by
  obtain ⟨service, hstored, hmark, hbound, -⟩ := Store.recorded_eq_some hrecord
  obtain ⟨-, portId, hport, hbound'⟩ := hstart.bound id service hstored hmark
  cases hbound.symm.trans hbound'
  have hname : record.portId ≠ "" := by
    simpa using (Option.filter_eq_some_iff.mp hbound).2
  refine h.calm.accounted.allocation.sound.exact.map_eq_preferred
    (Std.ExtTreeMap.getElem?_eq_none hfree) hname ?_ ?_
  · rw [h.pool]
    exact hstart.online.offers_iff.mpr hport
  · intro holder taken htaken hon
    have hmapped := mapped_of_record htaken
    have hother : id ≠ holder := by
      rintro rfl
      exact hfree hmapped
    cases h.standing holder with
    | waiting hfree' => exact absurd hmapped hfree'
    | restored _ hrecord' hsettled =>
      cases htaken.symm.trans hsettled.record
      exact hstart.apart id holder _ _ hother hrecord hrecord' hon.symm

/-- The outcome of a synchronisation that restores a service: it does not fail, the pool has not
moved, and the service is mapped and restored. -/
structure Restores (start : Worker) (id : ServiceId) (outcome : Outcome) : Prop where
  failure : outcome.2 = none
  pool : outcome.1.pool = start.pool
  mapped : outcome.1.Mapped id
  standing : start.Standing outcome.1 id

section Restoring

variable {record : Mapping} (h : start.Rebuilding worker) (hstart : start.Restarted)
  (hstored : start.cluster.store.get? service.id = some service)
  (hrecord : start.cluster.store.recorded service.id = some record)
  (hkind : service.canManage = true) (hmark : service.isManaged = true)
  (hbound : service.boundPort = some record.portId) (hports : service.transportPorts = record.ports)
include h hstart hstored hrecord hkind hmark hbound hports

/-- The first synchronisation of a service restores it. -/
theorem Rebuilding.restores_waiting (hfree : ¬worker.Mapped service.id)
    (hget : worker.cluster.store.get? service.id = start.cluster.store.get? service.id) :
    start.Restores service.id (worker.syncService service.id) := by
  have hmap := h.map_eq hstart hrecord hfree
  have hsettled := Allocator.settled_of_map_eq_ok hmap
  rw [← hports, ← hbound] at hmap
  obtain ⟨hfailure, hallocator, hpool, address, haddress, hobject⟩ :=
    h.calm.syncService_bound (hget.trans hstored) hkind hmark hbound hmap
  rw [h.pool] at haddress
  rw [← hports, ← hallocator, hports] at hsettled
  exact ⟨hfailure, hpool.trans h.pool, mapped_of_record hsettled.record,
    .restored hstored hrecord hsettled haddress hobject⟩

omit hstart in
/-- A further synchronisation of a service leaves it restored. -/
theorem Rebuilding.restores_restored {address : ExternalAddress}
    (hsettled : worker.allocator.Settled service.id record.ports record.portId)
    (haddress : PortPool.external start.pool record.portId = .ok address)
    (hget : worker.cluster.store.get? service.id = some (service.refreshed address)) :
    start.Restores service.id (worker.syncService service.id) := by
  -- The published address is all that distinguishes the object from the one at the restart.
  obtain ⟨version, heq⟩ := service.refreshed_eq address
  have hid : (service.refreshed address).id = service.id := by rw [heq]
  have hkind' : (service.refreshed address).canManage = true := by rwa [heq]
  have hmark' : (service.refreshed address).isManaged = true := by rwa [heq]
  have hbound' : (service.refreshed address).boundPort = some record.portId := by rwa [heq]
  have hports' : (service.refreshed address).transportPorts = record.ports := by rwa [heq]
  have hpresent := h.calm.present record.portId hsettled.tracked
  have hmap := hsettled.map_eq h.calm.accounted.allocation.sound.exact hpresent
    (service.refreshed address).boundPort
  rw [← hid, ← hports'] at hmap
  rw [← hid] at hget
  obtain ⟨hfailure, hallocator, hpool, again, hagain, hobject⟩ :=
    h.calm.syncService_bound hget hkind' hmark' hbound' hmap
  rw [h.pool] at hagain
  cases haddress.symm.trans hagain
  rw [hid] at hfailure hallocator hpool hobject
  rw [Service.refreshed_refreshed] at hobject
  rw [← hallocator] at hsettled
  exact ⟨hfailure, hpool.trans h.pool, mapped_of_record hsettled.record,
    .restored hstored hrecord hsettled haddress hobject⟩

end Restoring

/-- Every synchronisation of a service with a recorded mapping restores it. -/
theorem Rebuilding.syncService (h : start.Rebuilding worker) (hstart : start.Restarted)
    {record : Mapping} (hrecord : start.cluster.store.recorded id = some record) :
    start.Restores id (worker.syncService id) := by
  obtain ⟨service, hstored, hmark, hbound, hports⟩ := Store.recorded_eq_some hrecord
  have hkind := (hstart.bound id service hstored hmark).1
  cases hstart.cluster.keyed id service hstored
  cases h.standing service.id with
  | waiting hfree hget =>
    exact h.restores_waiting hstart hstored hrecord hkind hmark hbound hports hfree hget
  | restored hstored' hrecord' hsettled haddress hget =>
    cases hstored.symm.trans hstored'
    cases hrecord.symm.trans hrecord'
    exact h.restores_restored hstored hrecord hkind hmark hbound hports hsettled haddress hget

/-- A service stays mapped by what leaves it as it is. -/
theorem Standing.mapped_of_spares (h : start.Standing worker id) (hmapped : worker.Mapped id)
    (hspares : worker.Spares id later) : later.Mapped id := by
  cases h with
  | waiting hfree => exact absurd hmapped hfree
  | restored _ _ hsettled => exact mapped_of_record (hspares.settled _ _ hsettled).record

/-- A job of the resumption goes on with the rebuilding: a synchronisation restores its service, and
the services that were restored before stay mapped. -/
theorem Rebuilding.run (h : start.Rebuilding worker) (hstart : start.Restarted) {job : Job}
    (hjob : start.resumedBy job) :
    start.Rebuilding (worker.run job).1 ∧
      ∀ id, worker.Mapped id ∨ job = .syncService id → (worker.run job).1.Mapped id := by
  have hrestores (id : ServiceId) (hsync : job = .syncService id) :
      start.Restores id (worker.run job) := by
    subst hsync
    obtain ⟨record, hrecord⟩ := Option.isSome_iff_exists.mp hjob
    exact h.syncService hstart hrecord
  have hleaves (id : ServiceId) : worker.LeavesTo id job := by
    cases job with
    | pushConfig => exact trivial
    | syncService target =>
      rintro rfl hport
      cases (hrestores target rfl).failure.symm.trans hport
    | _ => cases hjob
  have hpool : (worker.run job).1.pool = start.pool := by
    cases job with
    | pushConfig =>
      obtain ⟨pusher, heq⟩ := worker.run_pushConfig_eq
      rw [heq]
      exact h.pool
    | syncService target => exact (hrestores target rfl).pool
    | _ => cases hjob
  refine ⟨⟨(h.calm.run (hleaves ⟨"", ""⟩)).1, hpool, fun id => ?_⟩, ?_⟩
  · by_cases hsync : job = .syncService id
    · exact (hrestores id hsync).standing
    · exact (h.standing id).of_spares ((h.calm.run (hleaves id)).2 hsync)
  · intro id hmapped
    by_cases hsync : job = .syncService id
    · exact (hrestores id hsync).mapped
    · exact (h.standing id).mapped_of_spares (hmapped.resolve_right hsync)
        ((h.calm.run (hleaves id)).2 hsync)

/-- A happening of the resumption goes on with the rebuilding. -/
theorem Rebuilding.after (h : start.Rebuilding worker) (hstart : start.Restarted)
    {happening : Happening} (hrule : start.Resumes worker happening) :
    start.Rebuilding (worker.after happening) ∧
      ∀ id, worker.Mapped id ∨ (∃ base, worker.handed happening = some (base, .syncService id)) →
        (worker.after happening).Mapped id := by
  cases hhanded : worker.handed happening with
  | none =>
    have hrest (id : ServiceId) : (worker.after happening).Calm ∧
        worker.Spares id (worker.after happening) := by
      refine h.calm.after_of_handed_eq_none ⟨fun base job hran => ?_, ?_⟩ hhanded
      · cases hhanded.symm.trans hran
      · have hquiet := hrule.2
        cases happening <;> first | exact trivial | exact hquiet.elim
    have hpool : (worker.after happening).pool = worker.pool := by
      have hquiet := hrule.2
      cases happening with
      | turn => rw [after_turn_of_handed hhanded]
      | execute => cases hhanded
      | put | delete | changePool => exact hquiet.elim
      | _ => rfl
    refine ⟨h.of_spares (hrest ⟨"", ""⟩).1 hpool fun id => (hrest id).2, ?_⟩
    rintro id (hmapped | ⟨base, hran⟩)
    · exact (h.standing id).mapped_of_spares hmapped (hrest id).2
    · cases hran
  | some handed =>
    obtain ⟨base, job⟩ := handed
    obtain ⟨⟨jobs, rfl⟩, hsettles⟩ := settles_handed hhanded
    have hbase : start.Rebuilding (worker.withJobs jobs) :=
      h.of_spares (h.calm.of_eq rfl rfl rfl) rfl fun id => spares_of_eq worker id rfl rfl rfl
    obtain ⟨hrun, hmapped⟩ := hbase.run hstart (hrule.1 _ job hhanded)
    have hsettled (id : ServiceId) :=
      spares_of_eq _ id hsettles.allocator hsettles.cluster hsettles.pool
    have hcalm := hrun.calm.of_eq hsettles.allocator hsettles.cluster hsettles.pool
    refine ⟨hrun.of_spares hcalm hsettles.pool hsettled, fun id hid => ?_⟩
    refine (hrun.standing id).mapped_of_spares (hmapped id ?_) (hsettled id)
    rcases hid with hmapped | ⟨base, hran⟩
    · exact Or.inl hmapped
    · cases hran
      exact Or.inr rfl

/-- A restarted worker has nothing rebuilt yet. -/
theorem Restarted.rebuilding (h : start.Restarted) : start.Rebuilding start :=
  ⟨h.calm, rfl, fun id => .waiting (h.not_mapped id) rfl⟩

/-- Throughout the resumption the worker rebuilds its mappings, and the services whose
synchronisation has run are mapped. -/
theorem Restarted.rebuilding_through (hstart : start.Restarted) {history : List Happening}
    (hhistory : start.Follows start.Resumes history) :
    start.Rebuilding (start.through history) ∧
      ∀ id, start.runs (.syncService id) history ≠ 0 → (start.through history).Mapped id := by
  induction history with
  | nil => exact ⟨hstart.rebuilding, fun id hran => absurd rfl hran⟩
  | cons happening earlier ih =>
    obtain ⟨hbefore, hmapped⟩ := ih hhistory.1
    obtain ⟨hafter, hmapped'⟩ := hbefore.after hstart hhistory.2
    refine ⟨hafter, fun id hran => hmapped' id ?_⟩
    by_cases hsync : ∃ base, (start.through earlier).handed happening =
        some (base, .syncService id)
    · exact Or.inr hsync
    · rw [runs_of_not_handed (not_exists.mp hsync)] at hran
      exact Or.inl (hmapped id hran)

/-- The recorded mappings are rebuilt: they are the whole assignment and make up the allocations of
every port. No port was made, and nothing was written but addresses that differed. -/
structure Recovered (start worker : Worker) : Prop where
  assignment : ∀ id : ServiceId,
    worker.allocator.assignment[id]? = (start.cluster.store.recorded id).map Mapping.portId
  allocations : ∀ portId number id, worker.allocator.Holds portId number id ↔
    ∃ record, start.cluster.store.recorded id = some record ∧ record.portId = portId ∧
      ∃ port ∈ record.ports, port.number = number
  pool : worker.pool = start.pool
  kept : ∀ id, start.cluster.store.recorded id = none →
    worker.cluster.store.get? id = start.cluster.store.get? id
  refreshed : ∀ id service record, start.cluster.store.get? id = some service →
    start.cluster.store.recorded id = some record →
      ∃ address, PortPool.external start.pool record.portId = .ok address ∧
        worker.cluster.store.get? id = some (service.refreshed address)

/-- Once every service with a recorded mapping is restored, the worker has recovered. -/
theorem Rebuilding.recovered (h : start.Rebuilding worker)
    (hall : ∀ id, (start.cluster.store.recorded id).isSome → worker.Mapped id) :
    start.Recovered worker := by
  have hrecords (id : ServiceId) :
      worker.allocator.records[id]? = start.cluster.store.recorded id := by
    cases h.standing id with
    | waiting hfree =>
      cases hrecord : start.cluster.store.recorded id with
      | none => exact Std.ExtTreeMap.getElem?_eq_none hfree
      | some record => exact absurd (hall id (by rw [hrecord]; rfl)) hfree
    | restored _ hrecord hsettled => rw [hrecord, hsettled.record]
  refine ⟨fun id => ?_, fun portId number id => ?_, h.pool, fun id hnone => ?_, ?_⟩
  · rw [Allocator.getElem?_assignment, hrecords id]
  · rw [← hrecords id]
    exact h.calm.accounted.allocation.sound.exact portId number id
  · cases h.standing id with
    | waiting _ hget => exact hget
    | restored _ hrecord => cases hnone.symm.trans hrecord
  · intro id service record hstored hrecord
    cases h.standing id with
    | waiting hfree => exact absurd (hall id (by rw [hrecord]; rfl)) hfree
    | restored hstored' hrecord' _ haddress hget =>
      cases hstored.symm.trans hstored'
      cases hrecord.symm.trans hrecord'
      exact ⟨_, haddress, hget⟩

/-- A restart rebuilds the recorded mappings. After every service with a recorded mapping was
synchronised at least once, in whatever order and with whatever repetitions, the worker has
recovered, and any two orders lead to the same assignment. -/
theorem restart_rebuilds {start : Worker} (hstart : start.Restarted) {history : List Happening}
    (hhistory : start.Resumption history) :
    start.Recovered (start.through history) ∧ ∀ another, start.Resumption another →
      (start.through another).allocator.assignment =
        (start.through history).allocator.assignment := by
  have hrecovers {history : List Happening} (h : start.Resumption history) :
      start.Recovered (start.through history) := by
    obtain ⟨hrebuilding, hmapped⟩ := hstart.rebuilding_through h.follows
    exact hrebuilding.recovered fun id hid => hmapped id (h.complete id hid)
  have hrecovered := hrecovers hhistory
  refine ⟨hrecovered, fun another hanother => Std.ExtTreeMap.ext_getElem? fun id => ?_⟩
  exact ((hrecovers hanother).assignment id).trans (hrecovered.assignment id).symm

/-- Executions of jobs that belong to the resumption follow its rule. -/
theorem follows_executions {jobs : List Job} (h : ∀ job ∈ jobs, start.resumedBy job) :
    start.Follows start.Resumes (jobs.map .execute) := by
  induction jobs with
  | nil => exact trivial
  | cons job earlier ih =>
    refine ⟨ih fun other hother => h other (List.mem_cons_of_mem job hother), ?_, trivial⟩
    rintro base executed hhanded
    cases hhanded
    exact h job List.mem_cons_self

/-- What a former worker left: two services on one port and a third one on another, the latter one
without its status. -/
def left : Worker :=
  let web : Service := .loadBalancer ⟨"ns", "web"⟩ [{ protocol := .tcp, port := 80 }]
  let dns : Service := .loadBalancer ⟨"ns", "dns"⟩ [{ protocol := .udp, port := 53 }]
  let api : Service := .loadBalancer ⟨"ns", "api"⟩ [{ protocol := .tcp, port := 80 }]
  let sync (service : Service) : Happening := .execute (.syncService service.id)
  sample.through [sync api, sync api, .put api, sync dns, sync dns, sync dns, .put dns, sync web,
    sync web, sync web, .put web]

/-- The worker that takes over and tracks one of the two ports. -/
def successor : Worker :=
  Worker.start (Allocator.track {} ["port-2"]) left.cluster left.pool {} .standard

/-- The worker that takes over is in order: the recorded mappings do not collide. -/
theorem restarted_successor : successor.Restarted := by
  have haccounted : left.Accounted := accounted_sample.through _
  have hlisted {id : ServiceId} {service : Service}
      (hstored : successor.cluster.store.get? id = some service) :
      (id, service) ∈ successor.cluster.store.services.toList :=
    Std.ExtTreeMap.mem_toList_iff_getElem?_eq_some.mpr hstored
  refine ⟨haccounted.allocation.pool, by decide +kernel, haccounted.cluster, by decide +kernel,
    by decide +kernel, ⟨["port-2"], by decide +kernel, rfl⟩, fun id service hstored => ?_,
    fun id other record record' hother hrecord hrecord' => ?_⟩
  · have hmanaged : ∀ entry ∈ successor.cluster.store.services.toList,
        entry.2.isManaged = true → entry.2.canManage = true ∧
          ∃ portId ∈ successor.pool.ports, entry.2.boundPort = some portId := by
      decide +kernel
    exact hmanaged _ (hlisted hstored)
  · have hapart : ∀ entry ∈ successor.cluster.store.services.toList,
        ∀ entry' ∈ successor.cluster.store.services.toList, entry.1 ≠ entry'.1 →
          ∀ record ∈ successor.cluster.store.recorded entry.1,
            ∀ record' ∈ successor.cluster.store.recorded entry'.1, record.portId = record'.portId →
              ∀ port ∈ record.ports, port.number ∉ record'.ports.map (·.number) := by
      decide +kernel
    obtain ⟨service, hstored, -⟩ := Store.recorded_eq_some hrecord
    obtain ⟨service', hstored', -⟩ := Store.recorded_eq_some hrecord'
    exact hapart _ (hlisted hstored) _ (hlisted hstored') hother record hrecord record' hrecord'

/-- The synchronisations of the three services, each once. -/
def once : List Job :=
  [.syncService ⟨"ns", "api"⟩, .syncService ⟨"ns", "dns"⟩, .syncService ⟨"ns", "web"⟩]

/-- The synchronisations in another order, with repetitions and a push between them. -/
def repeated : List Job :=
  [.syncService ⟨"ns", "web"⟩, .syncService ⟨"ns", "api"⟩, .syncService ⟨"ns", "web"⟩, .pushConfig,
    .syncService ⟨"ns", "dns"⟩, .syncService ⟨"ns", "api"⟩]

/-- Executions of synchronisations resume the work if none of the three services is left out. -/
theorem resumption_successor {jobs : List Job} (hjobs : ∀ job ∈ jobs, successor.resumedBy job)
    (hall : ∀ id ∈ successor.cluster.store.services.keys,
      successor.runs (.syncService id) (jobs.map .execute) ≠ 0) :
    successor.Resumption (jobs.map .execute) := by
  refine ⟨follows_executions hjobs, fun id hrecorded => hall id ?_⟩
  obtain ⟨record, hrecord⟩ := Option.isSome_iff_exists.mp hrecorded
  obtain ⟨service, hstored, -⟩ := Store.recorded_eq_some hrecord
  have hget : successor.cluster.store.services[id]? = some service := hstored
  exact Std.ExtTreeMap.mem_keys.mpr (mem_of_getElem?_eq_some hget)

/-- Both orders rebuild the assignment of the former worker, in which two services share a port. No
port is made, and only the service without its status is written. -/
theorem restart_rebuilds_successor :
    successor.Restarted ∧ successor.Resumption (once.map .execute) ∧
      successor.Resumption (repeated.map .execute) ∧
      left.allocator.assignment.toList = [(⟨"ns", "api"⟩, "port-2"), (⟨"ns", "dns"⟩, "port-1"),
        (⟨"ns", "web"⟩, "port-1")] ∧
      (successor.through (once.map .execute)).allocator.assignment = left.allocator.assignment ∧
      (successor.through (repeated.map .execute)).allocator.assignment =
        left.allocator.assignment ∧
      (successor.through (once.map .execute)).pool = left.pool ∧
      left.changedSince (successor.through (repeated.map .execute)) = [⟨"ns", "api"⟩] := by
  have honce : successor.Resumption (once.map .execute) :=
    resumption_successor (by decide +kernel) (by decide +kernel)
  have hrepeated : successor.Resumption (repeated.map .execute) :=
    resumption_successor (by decide +kernel) (by decide +kernel)
  obtain ⟨hrecovered, hsame⟩ := restart_rebuilds restarted_successor honce
  have hformer : (successor.through (once.map .execute)).allocator.assignment =
      left.allocator.assignment := by
    decide +kernel
  refine ⟨restarted_successor, honce, hrepeated, by decide +kernel, hformer,
    (hsame _ hrepeated).trans hformer, hrecovered.pool, by decide +kernel⟩

end Worker

end Balancer
