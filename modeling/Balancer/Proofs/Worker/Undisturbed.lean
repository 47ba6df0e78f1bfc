import Mathlib
import Balancer.Proofs.Worker.Calm
import Balancer.Proofs.Worker.Effects

/-!
# What leaves a service undisturbed

Whatever concerns other services leaves a service as it is: the stored object, the port that it is
settled on and the addresses of the port. A service is undisturbed while nobody edits or removes it,
no port of the pool goes away and its own synchronisations find a port. As long as nothing fails
around the worker, that stays so.
-/

namespace Balancer

/-- Making a pool available that can be reached changes nothing. -/
theorem Pool.Online.setUnavailable_eq {pool : Pool} (h : pool.Online) :
    pool.setUnavailable false = pool := by
  cases pool with
  | fixed pool => rfl
  | dynamic pool =>
    obtain ⟨_, _, _, _, _, _⟩ := pool
    cases h
    rfl

namespace Worker

/-- What is left of a service's state by whatever concerns other services only. -/
structure Spares (id : ServiceId) (before after : Worker) : Prop where
  stored : after.cluster.store.get? id = before.cluster.store.get? id
  settled : ∀ ports portId, before.allocator.Settled id ports portId →
    after.allocator.Settled id ports portId
  unmapped : ¬before.Mapped id → ¬after.Mapped id
  external : ∀ portId address, PortPool.external before.pool portId = .ok address →
    PortPool.external after.pool portId = .ok address

variable {worker later : Worker} {service : Service} {id other : ServiceId}

/-- Doing nothing leaves a service as it is. -/
theorem Spares.refl (id : ServiceId) (worker : Worker) : worker.Spares id worker :=
  ⟨rfl, fun _ _ h => h, fun h => h, fun _ _ h => h⟩

/-- What leaves a service as it is one after the other does so together. -/
theorem Spares.trans {middle : Worker} (h : worker.Spares id middle)
    (h' : middle.Spares id later) : worker.Spares id later := by
  refine ⟨h'.stored.trans h.stored, fun ports portId hsettled => ?_, h'.unmapped ∘ h.unmapped,
    fun portId address haddress => ?_⟩
  · exact h'.settled ports portId (h.settled ports portId hsettled)
  · exact h'.external portId address (h.external portId address haddress)

/-- The stored object, the allocator and the pool are all that matters to a service. -/
theorem spares_of_stored (worker : Worker) (id : ServiceId)
    (hallocator : later.allocator = worker.allocator) (hpool : later.pool = worker.pool)
    (hstored : later.cluster.store.get? id = worker.cluster.store.get? id) :
    worker.Spares id later := by
  refine ⟨hstored, fun ports portId hsettled => ?_, ?_, fun portId address haddress => ?_⟩
  · rwa [hallocator]
  · unfold Mapped
    rw [hallocator]
    exact fun h => h
  · rwa [hpool]

/-- What moves neither the allocator nor the cluster nor the pool leaves a service as it is. -/
theorem spares_of_eq (worker : Worker) (id : ServiceId)
    (hallocator : later.allocator = worker.allocator) (hcluster : later.cluster = worker.cluster)
    (hpool : later.pool = worker.pool) : worker.Spares id later :=
  spares_of_stored worker id hallocator hpool (by rw [hcluster])

/-- A change of the cluster makes nothing fail if the cluster stays in order. -/
theorem Calm.of_direct (h : worker.Calm) (hallocator : later.allocator = worker.allocator)
    (hpool : later.pool = worker.pool) (hcluster : later.cluster.Direct)
    (hreads : later.cluster.readsFailing = false)
    (hwrites : later.cluster.store.writesFailing = false) : later.Calm := by
  have hallocation : later.allocation = worker.allocation := by
    simp only [allocation, hallocator, hpool]
  refine ⟨⟨hallocation ▸ h.accounted.allocation, hcluster⟩, hreads, hwrites, ?_, ?_⟩
  · rw [hpool]
    exact h.online
  · rw [hallocator, hpool]
    exact h.present

/-- What moves neither the allocator nor the cluster nor the pool makes nothing fail. -/
theorem Calm.of_eq (h : worker.Calm) (hallocator : later.allocator = worker.allocator)
    (hcluster : later.cluster = worker.cluster) (hpool : later.pool = worker.pool) :
    later.Calm := by
  apply h.of_direct hallocator hpool
  · exact hcluster ▸ h.accounted.cluster
  · exact hcluster ▸ h.reads
  · exact hcluster ▸ h.writes

/-- Storing an object makes nothing fail. -/
theorem Calm.storing (h : worker.Calm) (object : Service)
    (events : List (ServiceId × ServiceEvent)) : (worker.storing object events).Calm := by
  have hcluster := h.accounted.cluster.storing object
  exact h.of_direct rfl rfl ⟨hcluster.thawed, hcluster.keyed⟩ h.reads h.writes

/-- Storing an object leaves other services as they are. -/
theorem spares_storing (worker : Worker) {object : Service} (hother : object.id ≠ id)
    (events : List (ServiceId × ServiceEvent)) :
    worker.Spares id (worker.storing object events) := by
  refine spares_of_stored worker id rfl rfl ?_
  rw [get?_storing, if_neg (Ne.symm hother)]

/-- Unmapping a service makes nothing fail. -/
theorem Calm.unmap (h : worker.Calm) (id : ServiceId) :
    Calm { worker with allocator := worker.allocator.unmap id } := by
  refine ⟨⟨.call (.unmap id) h.accounted.allocation trivial, h.accounted.cluster⟩, h.reads,
    h.writes, h.online, fun portId hport => ?_⟩
  exact h.present portId ((Allocator.mem_tracked_unmap _ _ _).mp hport)

/-- Unmapping a service leaves other services as they are. -/
theorem spares_unmap (worker : Worker) (hother : other ≠ id) :
    worker.Spares id { worker with allocator := worker.allocator.unmap other } := by
  refine ⟨rfl, fun _ _ h => h.unmap (Ne.symm hother), fun hfree hmapped => ?_, fun _ _ h => h⟩
  exact hfree ((Allocator.mem_records_unmap _ _ _).mp hmapped).2

/-- Making a port makes nothing fail. -/
theorem Calm.provision (h : worker.Calm) :
    Calm { worker with pool := (PortPool.provision worker.pool).2 } :=
  ⟨⟨.call (.changePool .provision) h.accounted.allocation trivial, h.accounted.cluster⟩, h.reads,
    h.writes, h.online.provision, fun portId hport => (h.present portId hport).provision⟩

/-- Making a port leaves every service as it is. -/
theorem Calm.spares_provision (h : worker.Calm) (id : ServiceId) :
    worker.Spares id { worker with pool := (PortPool.provision worker.pool).2 } := by
  refine ⟨rfl, fun _ _ h => h, fun h => h, fun _ _ haddress => ?_⟩
  have hoffers := Pool.offers_iff_external.mpr ⟨_, haddress⟩
  exact hoffers.external_provision h.accounted.grounded.pool haddress

namespace Maps

variable {portId : String} {mapped : Worker}

/-- Finding a port makes nothing fail. -/
theorem calm (h : worker.Maps service portId mapped) (hcalm : worker.Calm) : mapped.Calm := by
  obtain ⟨-, hpresent, honline⟩ := h.present hcalm
  have hallocation := h.reachable hcalm.accounted.allocation
  obtain ⟨allocator, pool, -, rfl⟩ := h
  exact ⟨⟨hallocation, hcalm.accounted.cluster⟩, hcalm.reads, hcalm.writes, honline, hpresent⟩

/-- Finding a port leaves other services as they are. -/
theorem spares (h : worker.Maps service portId mapped) (hcalm : worker.Calm)
    (hother : service.id ≠ id) : worker.Spares id mapped := by
  have hmapped := h.mapped_iff id
  obtain ⟨allocator, pool, hmap, rfl⟩ := h
  refine ⟨rfl, fun _ _ h => h.of_map (Ne.symm hother) hmap, fun hfree => ?_, ?_⟩
  · rw [hmapped, not_or]
    exact ⟨Ne.symm hother, hfree⟩
  · have hpool := worker.allocator.pool_map worker.pool service.id service.transportPorts
      service.boundPort
    rw [hmap] at hpool
    rcases hpool with rfl | rfl
    · exact fun _ _ haddress => haddress
    · exact (hcalm.spares_provision id).external

end Maps

/-- A synchronisation makes nothing fail. -/
theorem Advances.calm {outcome : Outcome} (h : worker.Advances service outcome)
    (hcalm : worker.Calm) : outcome.1.Calm := by
  cases h with
  | ignored => exact hcalm
  | takeOver => exact hcalm.storing _ _
  | withdraw => exact hcalm.storing _ _
  | release => exact ((hcalm.unmap service.id).storing _ _).of_eq rfl rfl rfl
  | stale => exact hcalm.storing _ _
  | full _ _ _ hpool =>
    rcases hpool with rfl | rfl
    · exact hcalm
    · exact hcalm.provision
  | clearFirst _ _ hmaps => exact (hmaps.calm hcalm).storing _ _
  | commit _ _ hmaps => exact (hmaps.calm hcalm).storing _ _
  | publish _ _ hmaps => exact ((hmaps.calm hcalm).storing _ _).of_eq rfl rfl rfl
  | settled _ _ hmaps => exact (hmaps.calm hcalm).of_eq rfl rfl rfl

/-- A synchronisation leaves other services as they are. -/
theorem Advances.spares {outcome : Outcome} (h : worker.Advances service outcome)
    (hcalm : worker.Calm) (hother : service.id ≠ id) : worker.Spares id outcome.1 := by
  cases h with
  | ignored => exact .refl id worker
  | takeOver =>
    refine worker.spares_storing ?_ _
    exact hother
  | withdraw =>
    refine worker.spares_storing ?_ _
    exact hother
  | release =>
    have hunmapped := worker.spares_unmap hother
    refine (hunmapped.trans (spares_storing _ ?_ _)).trans (spares_of_eq _ id rfl rfl rfl)
    exact hother
  | stale =>
    refine worker.spares_storing ?_ _
    exact hother
  | full _ _ _ hpool =>
    rcases hpool with rfl | rfl
    · exact .refl id worker
    · exact hcalm.spares_provision id
  | clearFirst _ _ hmaps =>
    refine (hmaps.spares hcalm hother).trans (spares_storing _ ?_ _)
    exact hother
  | commit _ _ hmaps =>
    refine (hmaps.spares hcalm hother).trans (spares_storing _ ?_ _)
    exact hother
  | publish _ _ hmaps =>
    have hfound := hmaps.spares hcalm hother
    refine (hfound.trans (spares_storing _ ?_ _)).trans (spares_of_eq _ id rfl rfl rfl)
    exact hother
  | settled _ _ hmaps =>
    exact (hmaps.spares hcalm hother).trans (spares_of_eq _ id rfl rfl rfl)

/-- A synchronisation of a service that is not stored does nothing. -/
theorem Calm.syncService_absent (h : worker.Calm) (hstored : worker.cluster.store.get? id = none) :
    worker.syncService id = (worker, none) := by
  have hread : worker.cluster.service id = .ok none := by
    rw [h.accounted.cluster.service_eq, h.reads, hstored]
    rfl
  simp only [syncService, hread]

/-- Whether a job leaves a service to its own synchronisations, and these find a port. -/
def LeavesTo (worker : Worker) (id : ServiceId) : Job → Prop
  | .syncService other =>
    other = id → (worker.run (.syncService id)).2 ≠ some (.allocator .noSuitablePort)
  | .removeService other _ => other ≠ id
  | .removeCleanupBarrier => True
  | .cleanup => False
  | .pushConfig => True
  | .syncAvailablePorts => False

/-- The jobs that leave a service to its synchronisations make nothing fail, and the other ones
leave it as it is. -/
theorem Calm.run (h : worker.Calm) {job : Job} (hjob : worker.LeavesTo id job) :
    (worker.run job).1.Calm ∧
      (job ≠ .syncService id → worker.Spares id (worker.run job).1) := by
  cases job with
  | syncService other =>
    change (worker.syncService other).1.Calm ∧ (_ → worker.Spares id (worker.syncService other).1)
    cases hstored : worker.cluster.store.get? other with
    | none =>
      rw [h.syncService_absent hstored]
      exact ⟨h, fun _ => .refl id worker⟩
    | some service =>
      have hadvances := h.syncService_advances hstored
      refine ⟨hadvances.calm h, fun hne => hadvances.spares h ?_⟩
      rw [h.accounted.cluster.keyed other service hstored]
      rintro rfl
      exact hne rfl
  | removeService other annotations =>
    simp only [Worker.run, removeService]
    split
    · refine ⟨(h.unmap other).of_eq rfl rfl rfl, fun _ => ?_⟩
      exact (worker.spares_unmap hjob).trans (spares_of_eq _ id rfl rfl rfl)
    · exact ⟨h, fun _ => .refl id worker⟩
  | removeCleanupBarrier =>
    exact ⟨h.of_eq rfl rfl rfl, fun _ => spares_of_eq worker id rfl rfl rfl⟩
  | cleanup => exact hjob.elim
  | pushConfig =>
    obtain ⟨pusher, heq⟩ := worker.run_pushConfig_eq
    rw [heq]
    exact ⟨h.of_eq rfl rfl rfl, fun _ => spares_of_eq worker id rfl rfl rfl⟩
  | syncAvailablePorts => exact hjob.elim

/-- The job that is run in a happening, if there is one, with the worker that runs it. -/
def handed (worker : Worker) : Happening → Option (Worker × Job)
  | .turn => worker.jobs.take.map fun taken => (worker.withJobs taken.2, taken.1)
  | .execute job => some (worker, job)
  | _ => none

/-- The run of a job is settled with the queue. -/
theorem settles_handed {happening : Happening} {base : Worker} {job : Job}
    (h : worker.handed happening = some (base, job)) :
    (∃ jobs, base = worker.withJobs jobs) ∧
      worker.Settles job (base.run job) (worker.after happening) := by
  cases happening with
  | turn =>
    obtain ⟨⟨taken, rest⟩, htake, heq⟩ := Option.map_eq_some_iff.mp h
    obtain ⟨rfl, rfl⟩ := Prod.mk.inj heq
    refine ⟨⟨rest, rfl⟩, ?_⟩
    simp only [Worker.after, step, htake, Option.map_some, Option.getD_some]
    exact settles_execute worker (worker.withJobs rest) taken
  | execute executed =>
    obtain ⟨rfl, rfl⟩ := Prod.mk.inj (Option.some.inj h)
    exact ⟨⟨worker.jobs, rfl⟩, worker.execute_settles executed⟩
  | _ => cases h

/-- How often a job was run in a history. -/
def runs (start : Worker) (job : Job) : List Happening → Nat
  | [] => 0
  | happening :: earlier =>
    let ran := ((start.through earlier).handed happening).map Prod.snd
    start.runs job earlier + if ran = some job then 1 else 0

section Runs

variable {start : Worker} {job : Job} {happening : Happening} {earlier : List Happening}

/-- A happening in which the job is run counts. -/
theorem runs_of_handed {base : Worker}
    (h : (start.through earlier).handed happening = some (base, job)) :
    start.runs job (happening :: earlier) = start.runs job earlier + 1 := by
  simp [runs, h]

/-- A happening in which the job is not run does not count. -/
theorem runs_of_not_handed
    (h : ∀ base, (start.through earlier).handed happening ≠ some (base, job)) :
    start.runs job (happening :: earlier) = start.runs job earlier := by
  have hnone : ((start.through earlier).handed happening).map Prod.snd ≠ some job := by
    intro hran
    obtain ⟨⟨base, ran⟩, hhanded, rfl⟩ := Option.map_eq_some_iff.mp hran
    exact h base hhanded
  simp [runs, hnone]

end Runs

/-- A turn in which no job is run changes nothing. -/
theorem after_turn_of_handed (h : worker.handed .turn = none) : worker.after .turn = worker := by
  have hnone : worker.step = none := Option.map_eq_none_iff.mpr (Option.map_eq_none_iff.mp h)
  simp only [Worker.after, hnone, Option.getD_none, notified_self]

/-- Whether a happening leaves a service undisturbed. -/
def Undisturbed (id : ServiceId) (worker : Worker) (happening : Happening) : Prop :=
  (∀ base job, worker.handed happening = some (base, job) → base.LeavesTo id job) ∧
    match happening with
    | .put service => service.id ≠ id
    | .delete other => other ≠ id
    | .failReads failing => failing = false
    | .failWrites failing => failing = false
    | .changePool change => change = .provision ∨ change = .setUnavailable false
    | _ => True

/-- The execution of a job that leaves a service to its synchronisations does not disturb it. -/
theorem undisturbed_execute {job : Job} (hjob : worker.LeavesTo id job) :
    worker.Undisturbed id (.execute job) := by
  refine ⟨fun base executed hhanded => ?_, trivial⟩
  obtain ⟨rfl, rfl⟩ := Prod.mk.inj (Option.some.inj hhanded)
  exact hjob

/-- A worker that runs no job is changed by a happening only where that is permitted. -/
theorem Calm.after_of_handed_eq_none (h : worker.Calm) {happening : Happening}
    (hrule : worker.Undisturbed id happening) (hhanded : worker.handed happening = none) :
    (worker.after happening).Calm ∧ worker.Spares id (worker.after happening) := by
  have hcluster := worker.direct_after h.accounted.cluster happening
  cases happening with
  | put service =>
    refine ⟨h.of_direct rfl rfl hcluster h.reads h.writes, spares_of_stored worker id rfl rfl ?_⟩
    rw [get?_after_put, if_neg (Ne.symm hrule.2)]
  | delete other =>
    have hget := worker.get?_after_delete other id
    rw [if_neg (Ne.symm hrule.2)] at hget
    cases hstored : worker.cluster.store.get? other with
    | none =>
      rw [after_delete_of_absent hstored]
      exact ⟨h, .refl id worker⟩
    | some deleted =>
      rw [after_delete_of_stored hstored] at hcluster hget ⊢
      exact ⟨h.of_direct rfl rfl hcluster h.reads h.writes,
        spares_of_stored worker id rfl rfl hget⟩
  | turn =>
    rw [after_turn_of_handed hhanded]
    exact ⟨h, .refl id worker⟩
  | execute job => cases hhanded
  | changePool change =>
    rcases hrule.2 with rfl | rfl
    · exact ⟨h.provision, h.spares_provision id⟩
    · have hsame : worker.after (.changePool (.setUnavailable false)) = worker := by
        simp only [Worker.after, Pool.change, h.online.setUnavailable_eq]
      rw [hsame]
      exact ⟨h, .refl id worker⟩
  | failReads failing =>
    cases hrule.2
    exact ⟨h.of_direct rfl rfl hcluster rfl h.writes, spares_of_stored worker id rfl rfl rfl⟩
  | failWrites failing =>
    cases hrule.2
    exact ⟨h.of_direct rfl rfl hcluster h.reads rfl, spares_of_stored worker id rfl rfl rfl⟩
  | _ =>
    exact ⟨h.of_direct rfl rfl hcluster h.reads h.writes,
      spares_of_stored worker id rfl rfl rfl⟩

/-- As long as a service is undisturbed nothing comes to fail, and only a run of its own
synchronisation changes it. -/
theorem Calm.after (h : worker.Calm) {happening : Happening}
    (hrule : worker.Undisturbed id happening) :
    (worker.after happening).Calm ∧
      ((∀ base, worker.handed happening ≠ some (base, .syncService id)) →
        worker.Spares id (worker.after happening)) := by
  cases hhanded : worker.handed happening with
  | none =>
    obtain ⟨hcalm, hspares⟩ := h.after_of_handed_eq_none hrule hhanded
    exact ⟨hcalm, fun _ => hspares⟩
  | some handed =>
    obtain ⟨base, job⟩ := handed
    obtain ⟨⟨jobs, rfl⟩, hsettles⟩ := settles_handed hhanded
    have hbase : (worker.withJobs jobs).Calm := h.of_eq rfl rfl rfl
    obtain ⟨hcalm, hspares⟩ := hbase.run (hrule.1 _ job hhanded)
    refine ⟨hcalm.of_eq hsettles.allocator hsettles.cluster hsettles.pool, fun hother => ?_⟩
    have hjobs : worker.Spares id (worker.withJobs jobs) := spares_of_eq worker id rfl rfl rfl
    have hrun := hspares fun hjob => hother _ (by rw [hjob])
    have hsettled := spares_of_eq _ id hsettles.allocator hsettles.cluster hsettles.pool
    exact hjobs.trans (hrun.trans hsettled)

end Worker

end Balancer
