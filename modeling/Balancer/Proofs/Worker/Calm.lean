import Mathlib
import Balancer.Proofs.Allocator.Stickiness
import Balancer.Proofs.Worker.Bookkeeping

/-!
# Synchronisations in which nothing fails

While the store is read and written, and the pool can be reached and has every tracked port, a
synchronisation fails only for want of a port. What it does otherwise depends on the stored object
and on the port that the allocator finds, and on nothing else.
-/

namespace Balancer

namespace Worker

/-- Nothing fails around a worker: its books are in order, the store is read and written, and the
pool can be reached and has every tracked port. -/
structure Calm (worker : Worker) : Prop where
  accounted : worker.Accounted
  reads : worker.cluster.readsFailing = false
  writes : worker.cluster.store.writesFailing = false
  online : worker.pool.Online
  present : worker.allocator.Present worker.pool

/-- What a synchronisation of a stored service does when nothing fails. -/
inductive Advances (worker : Worker) (service : Service) : Outcome → Prop where
  | ignored (hkind : service.canManage = false) (hmark : service.isManaged = false) :
      Advances worker service (worker, none)
  | takeOver (hkind : service.canManage = true) (hmark : service.isManaged = false)
      (events : List (ServiceId × ServiceEvent)) :
      Advances worker service (worker.storing service.markManaged.renewed events, none)
  | withdraw (hkind : service.canManage = false) (hmark : service.isManaged = true)
      (hstatus : service.hasIngress = true) (events : List (ServiceId × ServiceEvent)) :
      Advances worker service (worker.storing { service with ingress := [] }.renewed events, none)
  | release (hkind : service.canManage = false) (hmark : service.isManaged = true)
      (hstatus : service.hasIngress = false) (events : List (ServiceId × ServiceEvent)) :
      Advances worker service
        ((storing { worker with allocator := worker.allocator.unmap service.id }
          service.disown.renewed events).enqueue .pushConfig, none)
  | stale (hkind : service.canManage = true) (hmark : service.isManaged = true)
      (hbound : service.boundPort = none) (hstatus : service.hasIngress = true)
      (events : List (ServiceId × ServiceEvent)) :
      Advances worker service (worker.storing { service with ingress := [] }.renewed events, none)
  | full (hkind : service.canManage = true) (hmark : service.isManaged = true) {pool : Pool}
      (hmap : worker.allocator.map worker.pool service.id service.transportPorts
        service.boundPort = (.error .noSuitablePort, pool))
      (hpool : pool = worker.pool ∨ pool = (PortPool.provision worker.pool).2) :
      Advances worker service ({ worker with pool }, some (.allocator .noSuitablePort))
  | clearFirst (hkind : service.canManage = true) (hmark : service.isManaged = true)
      {portId : String} {mapped : Worker} (hmaps : worker.Maps service portId mapped)
      (hbound : service.boundPort ≠ some portId) (hstatus : service.hasIngress = true)
      (events : List (ServiceId × ServiceEvent)) :
      Advances worker service (mapped.storing { service with ingress := [] }.renewed events, none)
  | commit (hkind : service.canManage = true) (hmark : service.isManaged = true)
      {portId : String} {mapped : Worker} (hmaps : worker.Maps service portId mapped)
      (hbound : service.boundPort ≠ some portId) (hstatus : service.hasIngress = false)
      (events : List (ServiceId × ServiceEvent)) :
      Advances worker service (mapped.storing (service.setBoundPort portId).renewed events, none)
  | publish (hkind : service.canManage = true) (hmark : service.isManaged = true)
      {portId : String} {mapped : Worker} {address : ExternalAddress}
      (hmaps : worker.Maps service portId mapped) (hbound : service.boundPort = some portId)
      (haddress : PortPool.external mapped.pool portId = .ok address)
      (hstatus : service.ingress ≠ statusFor address) (events : List (ServiceId × ServiceEvent)) :
      Advances worker service
        ((mapped.storing { service with ingress := statusFor address }.renewed events).enqueue
          .pushConfig, none)
  | settled (hkind : service.canManage = true) (hmark : service.isManaged = true)
      {portId : String} {mapped : Worker} {address : ExternalAddress}
      (hmaps : worker.Maps service portId mapped) (hbound : service.boundPort = some portId)
      (haddress : PortPool.external mapped.pool portId = .ok address)
      (hstatus : service.ingress = statusFor address) :
      Advances worker service (mapped.enqueue .pushConfig, none)

variable {worker : Worker} {service : Service}

/-- The port that is found for a service is there, and every tracked port still is. -/
theorem Maps.present {portId : String} {mapped : Worker} (h : worker.Maps service portId mapped)
    (hcalm : worker.Calm) :
    mapped.allocator.Settled service.id service.transportPorts portId ∧
      mapped.allocator.Present mapped.pool ∧ mapped.pool.Online := by
  obtain ⟨allocator, pool, hmap, rfl⟩ := h
  exact ⟨Allocator.settled_of_map_eq_ok hmap, hcalm.present.map hcalm.online hmap⟩

/-- The port that is found for a service is there. -/
theorem Maps.offers {portId : String} {mapped : Worker} (h : worker.Maps service portId mapped)
    (hcalm : worker.Calm) : mapped.pool.Offers portId := by
  obtain ⟨hsettled, hpresent, -⟩ := h.present hcalm
  exact hpresent portId hsettled.tracked

/-- At most one port is found for a service. -/
theorem Maps.unique {portId other : String} {mapped later : Worker}
    (h : worker.Maps service portId mapped) (h' : worker.Maps service other later) :
    other = portId ∧ later = mapped := by
  obtain ⟨allocator, pool, hmap, rfl⟩ := h
  obtain ⟨allocator', pool', hmap', rfl⟩ := h'
  cases hmap.symm.trans hmap'
  exact ⟨rfl, rfl⟩

/-- A synchronisation that finds the port to which a managed service is bound publishes the address
of the port unless it is published already. -/
theorem Advances.refreshes {outcome : Outcome} (h : worker.Advances service outcome)
    (hkind : service.canManage = true) (hmark : service.isManaged = true) {portId : String}
    {mapped : Worker} (hmaps : worker.Maps service portId mapped)
    (hbound : service.boundPort = some portId) :
    ∃ address, PortPool.external mapped.pool portId = .ok address ∧
      ((service.ingress = statusFor address ∧ outcome = (mapped.enqueue .pushConfig, none)) ∨
        service.ingress ≠ statusFor address ∧ ∃ events, outcome =
          ((mapped.storing { service with ingress := statusFor address }.renewed events).enqueue
            .pushConfig, none)) := by
  cases h with
  | ignored hkind' | withdraw hkind' | release hkind' =>
    rw [hkind] at hkind'
    cases hkind'
  | takeOver _ hmark' =>
    rw [hmark] at hmark'
    cases hmark'
  | stale _ _ hbound' =>
    rw [hbound] at hbound'
    cases hbound'
  | full _ _ hmap' =>
    obtain ⟨allocator, pool, hmap, -⟩ := hmaps
    cases hmap.symm.trans hmap'
  | clearFirst _ _ hmaps' hbound' | commit _ _ hmaps' hbound' =>
    obtain ⟨rfl, -⟩ := hmaps.unique hmaps'
    exact absurd hbound hbound'
  | publish _ _ hmaps' _ haddress hstatus events =>
    obtain ⟨rfl, rfl⟩ := hmaps.unique hmaps'
    exact ⟨_, haddress, Or.inr ⟨hstatus, events, rfl⟩⟩
  | settled _ _ hmaps' _ haddress hstatus =>
    obtain ⟨rfl, rfl⟩ := hmaps.unique hmaps'
    exact ⟨_, haddress, Or.inl ⟨hstatus, rfl⟩⟩

section Writes

variable (hwrites : worker.cluster.store.writesFailing = false)
  (hstored : worker.cluster.store.get? service.id = some service)
include hwrites hstored

/-- A store that is written lets a status be withdrawn. -/
theorem clearStatus_eq (event : ServiceEvent) :
    ∃ events, worker.clearStatus service event =
      (worker.storing { service with ingress := [] }.renewed events, none) := by
  refine ⟨worker.cluster.store.events ++ [(service.id, event)], ?_⟩
  rw [clearStatus, updateStatus_eq hwrites hstored]
  rfl

/-- A store that is written lets a service be given up. -/
theorem release_eq (hstatus : service.hasIngress = false) :
    ∃ events, worker.release service =
      ((storing { worker with allocator := worker.allocator.unmap service.id }
        service.disown.renewed events).enqueue .pushConfig, none) := by
  unfold release
  rw [if_neg (by rw [hstatus]; exact Bool.false_ne_true)]
  dsimp only
  -- Whether the end of the mapping is logged makes no difference to the update.
  have hupdate (logged : Worker) (hwrites : logged.cluster.store.writesFailing = false)
      (hstored : logged.cluster.store.get? service.id = some service) :=
    updateService_eq hwrites hstored service.disown rfl rfl rfl
  split
  all_goals
    rw [hupdate]
    · exact ⟨_, rfl⟩
    · exact hwrites
    · exact hstored

end Writes

/-- Bringing a managed service up to date fails only for want of a port. -/
theorem Calm.syncManaged_advances (h : worker.Calm)
    (hstored : worker.cluster.store.get? service.id = some service)
    (hkind : service.canManage = true) (hmark : service.isManaged = true) :
    worker.Advances service (worker.syncManaged service) := by
  unfold syncManaged
  by_cases hstale : hasStaleStatus service.boundPort service.hasIngress = true
  · rw [if_pos hstale]
    simp only [hasStaleStatus, Bool.and_eq_true, Option.isNone_iff_eq_none] at hstale
    obtain ⟨events, heq⟩ := clearStatus_eq h.writes hstored .unassignedStale
    rw [heq]
    exact .stale hkind hmark hstale.1 hstale.2 events
  rw [if_neg hstale]
  rcases hmap : worker.allocator.map worker.pool service.id service.transportPorts
    service.boundPort with ⟨error | ⟨portId, allocator⟩, pool⟩
  · have hpool := worker.allocator.pool_map worker.pool service.id service.transportPorts
      service.boundPort
    rw [hmap] at hpool
    cases Allocator.eq_of_map_error h.online (congrArg Prod.fst hmap)
    exact .full hkind hmark hmap hpool
  generalize hmapped : ({ worker with pool, allocator } : Worker) = mapped
  have hmaps : worker.Maps service portId mapped := ⟨allocator, pool, hmap, hmapped.symm⟩
  have hwrites : mapped.cluster.store.writesFailing = false := by
    rw [← hmapped]
    exact h.writes
  have hstored' : mapped.cluster.store.get? service.id = some service :=
    (hmaps.get?_eq _).trans hstored
  simp only [hmapped, Transition.toward]
  by_cases hbound : service.boundPort = some portId
  · obtain ⟨address, haddress⟩ := Pool.offers_iff_external.mp (hmaps.offers h)
    simp only [if_pos hbound, refreshStatus, hmaps.portOf_eq, haddress]
    by_cases hstatus : service.ingress = statusFor address
    · rw [if_pos (by simpa [statusMatches] using hstatus)]
      exact .settled hkind hmark hmaps hbound haddress hstatus
    · rw [if_neg (by simpa [statusMatches] using hstatus), updateStatus_eq hwrites hstored']
      exact .publish hkind hmark hmaps hbound haddress hstatus _
  · rw [if_neg hbound]
    cases hstatus : service.hasIngress with
    | false =>
      rw [if_neg Bool.false_ne_true]
      have hupdate := updateService_eq hwrites hstored' (service.setBoundPort portId) rfl rfl rfl
      dsimp only [commitPort]
      rw [hupdate]
      exact .commit hkind hmark hmaps hbound hstatus _
    | true =>
      rw [if_pos rfl]
      obtain ⟨events, heq⟩ := clearStatus_eq hwrites hstored' .unassignedForRemapping
      dsimp only
      rw [heq]
      exact .clearFirst hkind hmark hmaps hbound hstatus events

/-- A synchronisation of a stored service fails only for want of a port. -/
theorem Calm.syncService_advances (h : worker.Calm) {id : ServiceId}
    (hstored : worker.cluster.store.get? id = some service) :
    worker.Advances service (worker.syncService id) := by
  have hread : worker.cluster.service id = .ok (some service) := by
    rw [h.accounted.cluster.service_eq, h.reads, hstored]
    rfl
  cases h.accounted.cluster.keyed id service hstored
  simp only [syncService, hread]
  cases hkind : service.canManage <;> cases hmark : service.isManaged
  · exact .ignored hkind hmark
  · cases hstatus : service.hasIngress with
    | false =>
      obtain ⟨events, heq⟩ := release_eq h.writes hstored hstatus
      dsimp only
      rw [heq]
      exact .release hkind hmark hstatus events
    | true =>
      obtain ⟨events, heq⟩ := clearStatus_eq h.writes hstored .unassignedForRelease
      simp only [release, hstatus, if_true, heq]
      exact .withdraw hkind hmark hstatus events
  · dsimp only
    rw [takeOver, updateService_eq h.writes hstored service.markManaged rfl rfl rfl]
    exact .takeOver hkind hmark _
  · exact h.syncManaged_advances hstored hkind hmark

end Worker

end Balancer
