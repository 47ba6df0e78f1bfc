import Mathlib
import Balancer.Proofs.Allocator.Placement
import Balancer.Proofs.Worker.Persistence

/-!
# What a synchronisation does

A synchronisation that finds something to write tries exactly one update of the store, as its last
step. There are seven kinds of updates. Which one is tried depends on the stored object and on the
port that the allocator finds, and the update is stored or refused as a whole.
-/

namespace Balancer

namespace Worker

/-- The allocator finds a port for a service, and the worker goes on with the moved bookkeeping. -/
def Maps (worker : Worker) (service : Service) (portId : String) (mapped : Worker) : Prop :=
  ∃ allocator pool,
    worker.allocator.map worker.pool service.id service.transportPorts service.boundPort =
      (.ok (portId, allocator), pool) ∧ mapped = { worker with allocator, pool }

/-- The updates of a stored service: the worker that tries the update, the object that it tries to
store, and whether it asks for a push afterwards. -/
inductive Attempt (worker : Worker) (service : Service) : Worker → Service → Bool → Prop where
  | takeOver (hkind : service.canManage = true) (hmark : service.isManaged = false) :
      Attempt worker service worker service.markManaged false
  | withdraw (hkind : service.canManage = false) (hmark : service.isManaged = true)
      (hstatus : service.hasIngress = true) :
      Attempt worker service worker { service with ingress := [] } false
  | release (hkind : service.canManage = false) (hmark : service.isManaged = true)
      (hstatus : service.hasIngress = false) :
      Attempt worker service { worker with allocator := worker.allocator.unmap service.id }
        service.disown true
  | stale (hkind : service.canManage = true) (hmark : service.isManaged = true)
      (hstale : hasStaleStatus service.boundPort service.hasIngress = true) :
      Attempt worker service worker { service with ingress := [] } false
  | commit (hkind : service.canManage = true) (hmark : service.isManaged = true)
      {portId : String} {mapped : Worker} (hmaps : worker.Maps service portId mapped)
      (hstatus : service.hasIngress = false) :
      Attempt worker service mapped (service.setBoundPort portId) false
  | clearFirst (hkind : service.canManage = true) (hmark : service.isManaged = true)
      {portId : String} {mapped : Worker} (hmaps : worker.Maps service portId mapped) :
      Attempt worker service mapped { service with ingress := [] } false
  | publish (hkind : service.canManage = true) (hmark : service.isManaged = true)
      {portId : String} {mapped : Worker} {address : ExternalAddress}
      (hmaps : worker.Maps service portId mapped) (hbound : service.boundPort = some portId)
      (haddress : PortPool.external mapped.pool portId = .ok address) :
      Attempt worker service mapped { service with ingress := statusFor address } true

/-- An update is refused, or it is stored and followed by a push if one is asked for. Either way
some events may have been logged. -/
inductive Tried (base : Worker) (target : Service) (push : Bool) : Outcome → Prop where
  | refused (error : StoreError) (events : List (ServiceId × ServiceEvent)) :
      Tried base target push (base.logging events, some (.store error))
  | stored (events : List (ServiceId × ServiceEvent)) :
      Tried base target push
        ({ base.storing target.renewed events with
          jobs := if push then base.jobs.add .pushConfig else base.jobs }, none)

/-- What a synchronisation of a service does. -/
inductive Synced (worker : Worker) (id : ServiceId) : Outcome → Prop where
  | unreadable (error : StoreError) : Synced worker id (worker, some (.store error))
  | absent (hstored : worker.cluster.store.get? id = none) : Synced worker id (worker, none)
  | ignored {service : Service} (hstored : worker.cluster.store.get? id = some service)
      (hkind : service.canManage = false) (hmark : service.isManaged = false) :
      Synced worker id (worker, none)
  | unmappable {service : Service} (hstored : worker.cluster.store.get? id = some service)
      (hkind : service.canManage = true) (hmark : service.isManaged = true) {pool : Pool}
      (hpool : pool = worker.pool ∨ pool = (PortPool.provision worker.pool).2)
      (error : AllocatorError) : Synced worker id ({ worker with pool }, some (.allocator error))
  | unaddressed {service : Service} (hstored : worker.cluster.store.get? id = some service)
      (hkind : service.canManage = true) (hmark : service.isManaged = true) {portId : String}
      {mapped : Worker} (hmaps : worker.Maps service portId mapped) (error : PoolError) :
      Synced worker id (mapped, some (.pool error))
  | settled {service : Service} (hstored : worker.cluster.store.get? id = some service)
      (hkind : service.canManage = true) (hmark : service.isManaged = true) {portId : String}
      {mapped : Worker} (hmaps : worker.Maps service portId mapped) :
      Synced worker id (mapped.enqueue .pushConfig, none)
  | tried {service : Service} (hstored : worker.cluster.store.get? id = some service)
      {base : Worker} {target : Service} {push : Bool} {outcome : Outcome}
      (hattempt : worker.Attempt service base target push)
      (htried : base.Tried target push outcome) : Synced worker id outcome

variable {worker : Worker} {service : Service}

/-- Persisting the annotations of a stored object succeeds or changes nothing. -/
theorem updateService_cases (target : Service)
    (hstored : worker.cluster.store.get? service.id = some service) (hid : target.id = service.id)
    (hversion : target.version = service.version) (hingress : target.ingress = service.ingress) :
    (∃ error, worker.updateService target = (worker, some (.store error))) ∨
      worker.updateService target =
        ({ worker with cluster := worker.cluster.storing target.renewed }, none) := by
  rcases Cluster.update_cases hstored hid hversion hingress with ⟨error, herror⟩ | heq
  · exact Or.inl ⟨error, by simp only [updateService, herror]⟩
  · exact Or.inr (by simp only [updateService, heq])

/-- Persisting the status of a stored object succeeds or changes nothing. -/
theorem updateStatus_cases (ingress : List IngressEntry)
    (hstored : worker.cluster.store.get? service.id = some service) :
    (∃ error, worker.updateStatus { service with ingress } = (worker, some (.store error))) ∨
      worker.updateStatus { service with ingress } =
        ({ worker with cluster := worker.cluster.storing { service with ingress }.renewed },
          none) := by
  rcases Cluster.updateStatus_cases ingress hstored with ⟨error, herror⟩ | heq
  · exact Or.inl ⟨error, by simp only [updateStatus, herror]⟩
  · exact Or.inr (by simp only [updateStatus, heq])

/-- A store that fails writes takes nothing. -/
theorem updateService_of_writesFailing (hwrites : worker.cluster.store.writesFailing = true)
    (target : Service) :
    worker.updateService target = (worker, some (.store .writesFailing)) := by
  simp [updateService, Cluster.update, Store.update, Store.write, hwrites, Except.map]

section Writes

variable (hwrites : worker.cluster.store.writesFailing = false)
  (hstored : worker.cluster.store.get? service.id = some service)
include hwrites hstored

/-- A store that is written takes the annotations of a stored object. -/
theorem updateService_eq (target : Service) (hid : target.id = service.id)
    (hversion : target.version = service.version) (hingress : target.ingress = service.ingress) :
    worker.updateService target =
      (worker.storing target.renewed worker.cluster.store.events, none) := by
  rcases updateService_cases target hstored hid hversion hingress with ⟨error, herror⟩ | heq
  · exfalso
    rw [← hid] at hstored
    simp [updateService, Cluster.update, Store.update, Store.write, hwrites, hstored, hversion,
      Except.map] at herror
  · exact heq

/-- A store that is written takes the status of a stored object. -/
theorem updateStatus_eq (ingress : List IngressEntry) :
    worker.updateStatus { service with ingress } =
      (worker.storing { service with ingress }.renewed worker.cluster.store.events, none) := by
  rcases updateStatus_cases ingress hstored with ⟨error, herror⟩ | heq
  · exfalso
    simp [updateStatus, Cluster.updateStatus, Store.updateStatus, Store.write, hwrites, hstored,
      Except.map] at herror
  · exact heq

end Writes

/-- Withdrawing a status is one update. -/
theorem clearStatus_tried (hstored : worker.cluster.store.get? service.id = some service)
    (event : ServiceEvent) :
    worker.Tried { service with ingress := [] } false (worker.clearStatus service event) := by
  rcases updateStatus_cases [] hstored with ⟨error, herror⟩ | heq
  · simp only [clearStatus, herror, followedBy]
    exact .refused error worker.cluster.store.events
  · simp only [clearStatus, heq, followedBy]
    exact .stored (worker.cluster.store.events ++ [(service.id, event)])

/-- Taking a service over is one update. -/
theorem takeOver_tried (hstored : worker.cluster.store.get? service.id = some service) :
    worker.Tried service.markManaged false (worker.takeOver service) := by
  rcases updateService_cases service.markManaged hstored rfl rfl rfl with
    ⟨error, herror⟩ | heq
  · simp only [takeOver, herror, followedBy]
    exact .refused error worker.cluster.store.events
  · simp only [takeOver, heq, followedBy]
    exact .stored (worker.cluster.store.events ++ [(service.id, .takenOver)])

/-- Giving up a service without a status unmaps it before the update. -/
theorem release_tried (hstored : worker.cluster.store.get? service.id = some service)
    (hstatus : service.hasIngress = false) :
    Tried { worker with allocator := worker.allocator.unmap service.id } service.disown true
      (worker.release service) := by
  unfold release
  rw [if_neg (by rw [hstatus]; exact Bool.false_ne_true)]
  dsimp only
  -- Whether the end of the mapping is logged makes no difference to the update.
  generalize hlogged : (if service.boundPort.isSome then _ else _ : Worker) = logged
  obtain ⟨events, hevents⟩ : ∃ events, logged =
      logging { worker with allocator := worker.allocator.unmap service.id } events := by
    rw [← hlogged]
    split
    · exact ⟨_, rfl⟩
    · exact ⟨worker.cluster.store.events, rfl⟩
  have hstored' : logged.cluster.store.get? service.id = some service := by
    rw [hevents]
    exact hstored
  subst hevents
  rcases updateService_cases service.disown hstored' rfl rfl rfl with ⟨error, herror⟩ | heq
  · rw [herror]
    exact .refused error events
  · rw [heq]
    exact .stored _

/-- Recording the port of a service is one update. -/
theorem commitPort_tried (hstored : worker.cluster.store.get? service.id = some service)
    (previous : Option String) (portId : String) :
    worker.Tried (service.setBoundPort portId) false
      (worker.commitPort service previous portId) := by
  rcases updateService_cases (service.setBoundPort portId) hstored rfl rfl rfl with
    ⟨error, herror⟩ | heq
  · simp only [commitPort, herror, followedBy]
    exact .refused error worker.cluster.store.events
  · simp only [commitPort, heq, followedBy]
    exact .stored (worker.cluster.store.events ++ [(service.id, _)])

/-- A mapped service has the port that was found for it. -/
theorem Maps.portOf_eq {portId : String} {mapped : Worker}
    (h : worker.Maps service portId mapped) : mapped.allocator.portOf service.id = .ok portId := by
  obtain ⟨allocator, pool, hmap, rfl⟩ := h
  obtain ⟨prepared, -, rfl⟩ := Allocator.placed_of_map_eq_ok hmap
  simp only [Allocator.portOf, Allocator.records_bind, if_pos]

/-- The stored object of a service that was mapped is still the same. -/
theorem Maps.get?_eq {portId : String} {mapped : Worker} (h : worker.Maps service portId mapped)
    (id : ServiceId) : mapped.cluster.store.get? id = worker.cluster.store.get? id := by
  obtain ⟨allocator, pool, -, rfl⟩ := h
  rfl

/-- Bringing a managed service up to date maps it and takes one step, unless a stale status has to
be withdrawn first. -/
theorem syncManaged_synced (hstored : worker.cluster.store.get? service.id = some service)
    (hkind : service.canManage = true) (hmark : service.isManaged = true) :
    worker.Synced service.id (worker.syncManaged service) := by
  unfold syncManaged
  by_cases hstale : hasStaleStatus service.boundPort service.hasIngress = true
  · rw [if_pos hstale]
    exact .tried hstored (.stale hkind hmark hstale) (clearStatus_tried hstored _)
  rw [if_neg hstale]
  rcases hmap : worker.allocator.map worker.pool service.id service.transportPorts
    service.boundPort with ⟨error | ⟨portId, allocator⟩, pool⟩
  · have hpool := worker.allocator.pool_map worker.pool service.id service.transportPorts
      service.boundPort
    rw [hmap] at hpool
    exact .unmappable hstored hkind hmark hpool error
  generalize hmapped : ({ worker with pool, allocator } : Worker) = mapped
  have hmaps : worker.Maps service portId mapped := ⟨allocator, pool, hmap, hmapped.symm⟩
  have hstored' : mapped.cluster.store.get? service.id = some service :=
    (hmaps.get?_eq _).trans hstored
  simp only [hmapped, Transition.toward]
  by_cases hbound : service.boundPort = some portId
  · simp only [if_pos hbound, refreshStatus, hmaps.portOf_eq]
    cases haddress : PortPool.external mapped.pool portId with
    | error error => exact .unaddressed hstored hkind hmark hmaps error
    | ok address =>
      by_cases hmatch : statusMatches service.ingress address = true
      · simp only [hmatch, if_true, followedBy]
        exact .settled hstored hkind hmark hmaps
      · refine .tried hstored (.publish hkind hmark hmaps hbound haddress) ?_
        rcases updateStatus_cases (statusFor address) hstored' with ⟨error, herror⟩ | heq
        · simp only [if_neg hmatch, herror, followedBy]
          exact .refused error mapped.cluster.store.events
        · simp only [if_neg hmatch, heq, followedBy]
          exact .stored _
  · simp only [if_neg hbound]
    cases hstatus : service.hasIngress with
    | false =>
      exact .tried hstored (.commit hkind hmark hmaps hstatus) (commitPort_tried hstored' _ _)
    | true => exact .tried hstored (.clearFirst hkind hmark hmaps) (clearStatus_tried hstored' _)

/-- Every synchronisation with a cache that follows the store is of one of the described kinds. -/
theorem syncService_synced (worker : Worker) (hcluster : worker.cluster.Direct) (id : ServiceId) :
    worker.Synced id (worker.syncService id) := by
  unfold syncService
  rw [hcluster.service_eq]
  split
  · next cause hread => exact .unreadable cause
  · next hread =>
    split at hread
    · cases hread
    · exact .absent (Except.ok.inj hread)
  · next service hread =>
    have hstored : worker.cluster.store.get? id = some service := by
      split at hread
      · cases hread
      · exact Except.ok.inj hread
    cases hcluster.keyed id service hstored
    cases hkind : service.canManage <;> cases hmark : service.isManaged
    · exact .ignored hstored hkind hmark
    · cases hstatus : service.hasIngress with
      | false =>
        exact .tried hstored (.release hkind hmark hstatus) (release_tried hstored hstatus)
      | true =>
        refine .tried hstored (.withdraw hkind hmark hstatus) ?_
        simp only [release, hstatus, if_true]
        exact clearStatus_tried hstored _
    · exact .tried hstored (.takeOver hkind hmark) (takeOver_tried hstored)
    · exact syncManaged_synced hstored hkind hmark

end Worker

end Balancer
