import Mathlib
import Balancer.Proofs.Worker.History

/-!
# What jobs do to records and marks

A service gets a record only in a synchronisation that finds it marked as managed and manageable.
The only update that takes the mark off comes after its record is gone, and it asks for a push. A
synchronisation of a marked service that stores nothing fails, or it asks for a push.
-/

namespace Balancer

/-- A persisted object is not the object that it replaces, since its version is another one. -/
theorem Service.renewed_ne {service target : Service}
    (hversion : target.version = service.version) :
    target.renewed ≠ service := by
  intro heq
  have hrenewed : target.version + 1 = service.version := congrArg Service.version heq
  omega

/-- A service that is taken over is marked. -/
theorem Service.isManaged_markManaged (service : Service) :
    service.markManaged.isManaged = true := by
  simp [isManaged, markManaged, Annotations.isManaged]

/-- Recording a port leaves the mark alone. -/
theorem Service.isManaged_setBoundPort (service : Service) (portId : String) :
    (service.setBoundPort portId).isManaged = service.isManaged := by
  have hkeys : boundPortKey ≠ managedKey := by decide
  simp [isManaged, setBoundPort, Annotations.isManaged, Std.ExtTreeMap.getElem?_insert, hkeys]

namespace Worker

/-- Whether a service has a record. -/
def Mapped (worker : Worker) (id : ServiceId) : Prop :=
  id ∈ worker.allocator.records

/-- Whether a service is stored and marked as managed. -/
def Owned (worker : Worker) (id : ServiceId) : Prop :=
  ∃ service, worker.cluster.store.get? id = some service ∧ service.isManaged = true

variable {worker : Worker} {service : Service}

/-- A service with a record is mapped. -/
theorem mapped_of_record {id : ServiceId} {record : Mapping}
    (h : worker.allocator.records[id]? = some record) : worker.Mapped id :=
  mem_of_getElem?_eq_some h

/-- Settling a job with the queue leaves the records alone. -/
theorem Settles.mapped_iff {after : Worker} {job : Job} {outcome : Outcome}
    (h : worker.Settles job outcome after) (id : ServiceId) :
    after.Mapped id ↔ outcome.1.Mapped id := by
  unfold Mapped
  rw [h.allocator]

/-- Mapping a service adds its own record only. -/
theorem Maps.mapped_iff {portId : String} {mapped : Worker} (h : worker.Maps service portId mapped)
    (other : ServiceId) : mapped.Mapped other ↔ other = service.id ∨ worker.Mapped other := by
  obtain ⟨allocator, pool, hmap, rfl⟩ := h
  obtain ⟨prepared, hplaced, rfl⟩ := Allocator.placed_of_map_eq_ok hmap
  unfold Mapped
  rw [Allocator.mem_records_bind, hplaced.records_eq]

/-- Mapping a marked and manageable service adds no record of another kind. -/
theorem Maps.mapped {portId : String} {mapped : Worker} (h : worker.Maps service portId mapped)
    (hkind : service.canManage = true) (hmark : service.isManaged = true) {other : ServiceId}
    (hother : mapped.Mapped other) :
    worker.Mapped other ∨
      other = service.id ∧ service.canManage = true ∧ service.isManaged = true := by
  rcases (h.mapped_iff other).mp hother with hnew | hold
  · exact Or.inr ⟨hnew, hkind, hmark⟩
  · exact Or.inl hold

/-- The preparation of an update adds at most a record of the service itself, which is marked and
manageable then. -/
theorem Attempt.mapped {target : Service} {base : Worker} {push : Bool}
    (h : worker.Attempt service base target push) {other : ServiceId} (hother : base.Mapped other) :
    worker.Mapped other ∨
      other = service.id ∧ service.canManage = true ∧ service.isManaged = true := by
  cases h with
  | takeOver => exact Or.inl hother
  | withdraw => exact Or.inl hother
  | release => exact Or.inl ((Allocator.mem_records_unmap _ _ _).mp hother).2
  | stale => exact Or.inl hother
  | commit hkind hmark hmaps => exact hmaps.mapped hkind hmark hother
  | clearFirst hkind hmark hmaps => exact hmaps.mapped hkind hmark hother
  | publish hkind hmark hmaps => exact hmaps.mapped hkind hmark hother

/-- An update changes neither the identifier nor the version on which it is based. -/
theorem Attempt.basis {target : Service} {base : Worker} {push : Bool}
    (h : worker.Attempt service base target push) :
    target.id = service.id ∧ target.version = service.version := by
  cases h <;> exact ⟨rfl, rfl⟩

/-- An update leaves the service marked, or it asks for a push with the record gone. -/
theorem Attempt.marked {target : Service} {base : Worker} {push : Bool}
    (h : worker.Attempt service base target push) :
    target.isManaged = true ∨ push = true ∧ ¬base.Mapped service.id := by
  cases h with
  | takeOver => exact Or.inl service.isManaged_markManaged
  | withdraw _ hmark => exact Or.inl hmark
  | release =>
    right
    constructor
    · rfl
    · intro hid
      exact ((Allocator.mem_records_unmap _ _ _).mp hid).1 rfl
  | stale _ hmark => exact Or.inl hmark
  | commit _ hmark => exact Or.inl ((service.isManaged_setBoundPort _).trans hmark)
  | clearFirst _ hmark => exact Or.inl hmark
  | publish _ hmark => exact Or.inl hmark

variable {id : ServiceId} {outcome : Outcome}

/-- A synchronisation adds at most a record of the service itself, which is marked and manageable
then. -/
theorem Synced.mapped (h : worker.Synced id outcome) (hcluster : worker.cluster.Direct)
    {other : ServiceId} (hother : outcome.1.Mapped other) :
    worker.Mapped other ∨ other = id ∧ ∃ service, worker.cluster.store.get? id = some service ∧
      service.canManage = true ∧ service.isManaged = true := by
  have hown {service : Service} (hstored : worker.cluster.store.get? id = some service)
      (h : worker.Mapped other ∨
        other = service.id ∧ service.canManage = true ∧ service.isManaged = true) :
      worker.Mapped other ∨ other = id ∧ ∃ service, worker.cluster.store.get? id = some service ∧
        service.canManage = true ∧ service.isManaged = true := by
    rcases h with hold | ⟨hsame, hmarked⟩
    · exact Or.inl hold
    · exact Or.inr ⟨hsame.trans (hcluster.keyed id service hstored), service, hstored, hmarked⟩
  cases h with
  | unreadable => exact Or.inl hother
  | absent => exact Or.inl hother
  | ignored => exact Or.inl hother
  | unmappable => exact Or.inl hother
  | unaddressed hstored hkind hmark hmaps => exact hown hstored (hmaps.mapped hkind hmark hother)
  | settled hstored hkind hmark hmaps => exact hown hstored (hmaps.mapped hkind hmark hother)
  | @tried service hstored base target push _ hattempt htried =>
    have hbase : base.Mapped other := by cases htried <;> exact hother
    exact hown hstored (hattempt.mapped hbase)

/-- What a synchronisation stores: nothing, or one object that replaces the one it read. The mark
goes only once the record is gone, and then a push is asked for. -/
theorem Synced.stored_cases (h : worker.Synced id outcome) (hcluster : worker.cluster.Direct) :
    (∀ other, outcome.1.cluster.store.get? other = worker.cluster.store.get? other) ∨
    ∃ service target, worker.cluster.store.get? id = some service ∧ target ≠ service ∧
      (∀ other, outcome.1.cluster.store.get? other =
        if other = id then some target else worker.cluster.store.get? other) ∧
      (target.isManaged = true ∨ ¬outcome.1.Mapped id ∧
        (worker.jobs.queue.shuttingDown = false → outcome.1.jobs.Waits .pushConfig)) := by
  cases h with
  | unreadable => exact Or.inl fun _ => rfl
  | absent => exact Or.inl fun _ => rfl
  | ignored => exact Or.inl fun _ => rfl
  | unmappable => exact Or.inl fun _ => rfl
  | unaddressed _ _ _ hmaps => exact Or.inl hmaps.get?_eq
  | settled _ _ _ hmaps => exact Or.inl hmaps.get?_eq
  | @tried service hstored base target push _ hattempt htried =>
    cases hcluster.keyed id service hstored
    cases htried with
    | refused => exact Or.inl hattempt.get?_eq
    | stored events =>
      refine Or.inr ⟨service, target.renewed, hstored, ?_, fun other => ?_, ?_⟩
      · exact Service.renewed_ne hattempt.basis.2
      · rw [← hattempt.get?_eq other, ← hattempt.basis.1]
        exact base.get?_storing target.renewed events other
      · rcases hattempt.marked with hmark | ⟨rfl, hgone⟩
        · exact Or.inl hmark
        · refine Or.inr ⟨hgone, fun hopen => DelayQueue.waits_add ?_ _⟩
          exact hattempt.carries.jobs.shuttingDown.trans hopen

/-- A synchronisation of a marked service fails, or stores something, or maps the service, which is
manageable then, and asks for a push. -/
theorem Synced.settled_of_unchanged (h : worker.Synced id outcome)
    (hstored : worker.cluster.store.get? id = some service) (hmark : service.isManaged = true)
    (hunchanged : outcome.1.cluster.store.get? id = some service)
    (hcluster : worker.cluster.Direct) :
    outcome.2 ≠ none ∨ service.canManage = true ∧ ∃ portId mapped,
      worker.Maps service portId mapped ∧ outcome.1 = mapped.enqueue .pushConfig := by
  cases h with
  | unreadable => exact Or.inl (Option.some_ne_none _)
  | absent hstored' =>
    rw [hstored'] at hstored
    cases hstored
  | ignored hstored' _ hmark' =>
    rw [hstored'] at hstored
    cases hstored
    rw [hmark] at hmark'
    cases hmark'
  | unmappable => exact Or.inl (Option.some_ne_none _)
  | unaddressed => exact Or.inl (Option.some_ne_none _)
  | settled hstored' hkind _ hmaps =>
    rw [hstored'] at hstored
    cases hstored
    exact Or.inr ⟨hkind, _, _, hmaps, rfl⟩
  | @tried found hstored' base target push _ hattempt htried =>
    rw [hstored'] at hstored
    cases hstored
    cases htried with
    | refused => exact Or.inl (Option.some_ne_none _)
    | stored events =>
      -- An update that is stored would have changed the version of the object.
      exfalso
      change (base.storing target.renewed events).cluster.store.get? id = _ at hunchanged
      have hid : id = target.renewed.id :=
        (hcluster.keyed id service hstored').symm.trans hattempt.basis.1.symm
      rw [get?_storing, if_pos hid] at hunchanged
      exact Service.renewed_ne hattempt.basis.2 (Option.some.inj hunchanged)

/-- A synchronisation of a marked service fails, or stores something, or asks for a push because the
service is manageable. -/
theorem Synced.progress (h : worker.Synced id outcome)
    (hstored : worker.cluster.store.get? id = some service) (hmark : service.isManaged = true)
    (hunchanged : outcome.1.cluster.store.get? id = some service)
    (hcluster : worker.cluster.Direct) :
    outcome.2 ≠ none ∨ service.canManage = true ∧
      (worker.jobs.queue.shuttingDown = false → outcome.1.jobs.Waits .pushConfig) := by
  rcases h.settled_of_unchanged hstored hmark hunchanged hcluster with
    hfailed | ⟨hkind, portId, mapped, hmaps, heq⟩
  · exact Or.inl hfailed
  · refine Or.inr ⟨hkind, fun hopen => ?_⟩
    rw [heq]
    exact DelayQueue.waits_add (hmaps.carries.jobs.shuttingDown.trans hopen) _

/-- A maintenance job adds no record. -/
theorem Upkeep.mapped {job : Job} (h : worker.Upkeep job outcome) {other : ServiceId}
    (hother : outcome.1.Mapped other) : worker.Mapped other := by
  cases h with
  | cleaned =>
    unfold Mapped at hother ⊢
    rwa [Allocator.records_track] at hother
  | adjusted =>
    unfold Mapped at hother ⊢
    rw [Allocator.records_track] at hother
    exact Allocator.mem_records_of_mem_setAvailable hother
  | _ => exact hother

/-- Only a synchronisation adds records. -/
theorem mapped_run (worker : Worker) {job : Job} (hjob : ∀ id, job ≠ .syncService id)
    {other : ServiceId} (hother : (worker.run job).1.Mapped other) : worker.Mapped other := by
  cases job with
  | syncService id => exact absurd rfl (hjob id)
  | removeService id annotations =>
    simp only [run, removeService] at hother
    split at hother
    · exact ((Allocator.mem_records_unmap _ _ _).mp hother).2
    · exact hother
  | removeCleanupBarrier => exact hother
  | cleanup => exact (worker.upkeep .cleanup trivial).mapped hother
  | pushConfig => exact (worker.upkeep .pushConfig trivial).mapped hother
  | syncAvailablePorts => exact (worker.upkeep .syncAvailablePorts trivial).mapped hother

/-- Only its own synchronisation changes the stored object of a service. -/
theorem get?_run_of_ne (worker : Worker) (hcluster : worker.cluster.Direct) {job : Job}
    (hjob : job ≠ .syncService id) :
    (worker.run job).1.cluster.store.get? id = worker.cluster.store.get? id := by
  cases job with
  | syncService other =>
    have hne : id ≠ other := fun hsame => hjob (congrArg Job.syncService hsame.symm)
    rcases (worker.syncService_synced hcluster other).stored_cases hcluster with
      hsame | ⟨service, target, -, -, hget, -⟩
    · exact hsame id
    · exact (hget id).trans (if_neg hne)
  | _ => exact worker.get?_run (by simp) id

/-- Only its own synchronisation adds the record of a service. -/
theorem mapped_run_of_ne (worker : Worker) (hcluster : worker.cluster.Direct) {job : Job}
    (hjob : job ≠ .syncService id) (hmapped : (worker.run job).1.Mapped id) : worker.Mapped id := by
  cases job with
  | syncService other =>
    have hne : id ≠ other := fun hsame => hjob (congrArg Job.syncService hsame.symm)
    have hsynced := worker.syncService_synced hcluster other
    exact (hsynced.mapped hcluster hmapped).resolve_right fun hnew => hne hnew.1
  | _ => exact worker.mapped_run (by simp) hmapped

/-- The removal of a managed service takes its record away and asks for a push. -/
theorem run_removeService (worker : Worker) (id : ServiceId) {annotations : Annotations}
    (hannotations : Annotations.isManaged annotations = true) :
    ¬(worker.run (.removeService id annotations)).1.Mapped id ∧
      (worker.jobs.queue.shuttingDown = false →
        (worker.run (.removeService id annotations)).1.jobs.Waits .pushConfig) := by
  simp only [run, removeService, if_pos hannotations]
  constructor
  · intro hid
    exact ((Allocator.mem_records_unmap _ _ _).mp hid).1 rfl
  · intro hopen
    exact DelayQueue.waits_add ((worker.jobs.extends_add .cleanup).shuttingDown.trans hopen) _

/-- What a run leaves alone when it neither changes the assignment nor stores nor pushes. -/
structure Idle (before after : Worker) : Prop where
  records : ∀ id : ServiceId, after.allocator.records[id]? = before.allocator.records[id]?
  stored : ∀ id, after.cluster.store.get? id = before.cluster.store.get? id
  pusher : after.pusher = before.pusher

/-- A cleanup keeps the records. -/
theorem run_cleanup (worker : Worker) : worker.Idle (worker.run .cleanup).1 := by
  have hupkeep := worker.upkeep .cleanup trivial
  generalize worker.run .cleanup = outcome at hupkeep ⊢
  cases hupkeep with
  | barred => exact ⟨fun _ => rfl, fun _ => rfl, rfl⟩
  | refused => exact ⟨fun _ => rfl, fun _ => rfl, rfl⟩
  | cleaned =>
    refine ⟨fun id => ?_, fun _ => rfl, rfl⟩
    rw [Allocator.records_track]
    rfl

/-- The preparation of an update takes no record away but that of the service itself, which is
marked then. -/
theorem Attempt.mapped_of_mapped {target : Service} {base : Worker} {push : Bool}
    (h : worker.Attempt service base target push)
    (hfree : id = service.id → service.isManaged = false) (hid : worker.Mapped id) :
    base.Mapped id := by
  cases h with
  | takeOver => exact hid
  | withdraw => exact hid
  | release _ hmark =>
    have hne : id ≠ service.id := by
      intro hsame
      rw [hfree hsame] at hmark
      cases hmark
    exact (Allocator.mem_records_unmap _ _ _).mpr ⟨hne, hid⟩
  | stale => exact hid
  | commit _ _ hmaps => exact (hmaps.mapped_iff id).mpr (Or.inr hid)
  | clearFirst _ _ hmaps => exact (hmaps.mapped_iff id).mpr (Or.inr hid)
  | publish _ _ hmaps => exact (hmaps.mapped_iff id).mpr (Or.inr hid)

/-- A synchronisation takes no record away, but for that of its own service where it is owned. -/
theorem Synced.mapped_of_mapped {other : ServiceId} (h : worker.Synced other outcome)
    (hcluster : worker.cluster.Direct) (hfree : id = other → ¬worker.Owned id)
    (hid : worker.Mapped id) : outcome.1.Mapped id := by
  cases h with
  | unreadable => exact hid
  | absent => exact hid
  | ignored => exact hid
  | unmappable => exact hid
  | unaddressed _ _ _ hmaps => exact (hmaps.mapped_iff id).mpr (Or.inr hid)
  | settled _ _ _ hmaps => exact (hmaps.mapped_iff id).mpr (Or.inr hid)
  | @tried service hstored base target push _ hattempt htried =>
    have hbase : base.Mapped id := by
      refine hattempt.mapped_of_mapped (fun hsame => ?_) hid
      cases hcluster.keyed other service hstored
      cases hmark : service.isManaged with
      | false => rfl
      | true => exact absurd ⟨service, hsame ▸ hstored, hmark⟩ (hfree hsame)
    cases htried <;> exact hbase

/-- A service that loses its record to vanished ports is going to be synchronised. -/
theorem mapped_run_syncAvailablePorts (worker : Worker) (hid : worker.Mapped id) :
    (worker.run .syncAvailablePorts).1.Mapped id ∨ (worker.jobs.queue.shuttingDown = false →
      (worker.run .syncAvailablePorts).1.jobs.Waits (.syncService id)) := by
  have hupkeep := worker.upkeep .syncAvailablePorts trivial
  generalize worker.run .syncAvailablePorts = outcome at hupkeep ⊢
  cases hupkeep with
  | unlisted => exact Or.inl hid
  | adjusted =>
    by_cases hstranded : id ∈ worker.allocator.strandedBy worker.pool.ports
    · refine Or.inr fun hopen => DelayQueue.waits_addAll hopen (syncService_mem_followUps ?_)
      exact (worker.allocator.mem_evicted_iff worker.pool.ports id).mpr ⟨hid, hstranded⟩
    · left
      unfold Mapped at hid ⊢
      rw [Std.ExtTreeMap.mem_iff_isSome_getElem?] at hid ⊢
      rwa [Allocator.records_track, Allocator.records_setAvailable, if_neg hstranded]

/-- A job takes the record of a service away only if it synchronises the service while it is owned,
if it removes an earlier object that was marked, or if the port has vanished; the service is going
to be synchronised then. -/
theorem mapped_run_cases (worker : Worker) (hcluster : worker.cluster.Direct) {job : Job}
    (hsync : job = .syncService id → ¬worker.Owned id)
    (hremove : ∀ annotations, Annotations.isManaged annotations = true →
      job ≠ .removeService id annotations) (hid : worker.Mapped id) :
    (worker.run job).1.Mapped id ∨ job = .syncAvailablePorts ∧
      (worker.jobs.queue.shuttingDown = false →
        (worker.run job).1.jobs.Waits (.syncService id)) := by
  cases job with
  | syncService other =>
    have hsynced := worker.syncService_synced hcluster other
    exact Or.inl (hsynced.mapped_of_mapped hcluster (fun hsame => hsync (hsame ▸ rfl)) hid)
  | removeService other annotations =>
    left
    simp only [run, removeService]
    split
    · next hmark =>
      have hne : id ≠ other := fun hsame => hremove annotations hmark (hsame ▸ rfl)
      exact (Allocator.mem_records_unmap _ _ _).mpr ⟨hne, hid⟩
    · exact hid
  | removeCleanupBarrier => exact Or.inl hid
  | cleanup =>
    left
    unfold Mapped at hid ⊢
    rw [Std.ExtTreeMap.mem_iff_isSome_getElem?] at hid ⊢
    rwa [worker.run_cleanup.records]
  | pushConfig =>
    left
    obtain ⟨pusher, heq⟩ := worker.run_pushConfig_eq
    rw [heq]
    exact hid
  | syncAvailablePorts =>
    rcases worker.mapped_run_syncAvailablePorts hid with hkept | hwaits
    · exact Or.inl hkept
    · exact Or.inr ⟨rfl, hwaits⟩

end Worker

end Balancer
