import Mathlib
import Balancer.Proofs.Worker.Ownership

/-!
# Services that follow a deleted one

The removal of a deleted service is a job like any other, and it does not look at the store. When a
service is put again before that job runs, the record that the job takes away may be that of the
new object. Mostly this does no harm: what the synchronisation of the new object stores brings back
another synchronisation behind the removal. But a service that is put with its mark, its port and
its status in place leaves nothing to store. If its synchronisation had been asked for before the
deletion, it runs before the removal, and nothing binds the service again afterwards. No service is
lost in any other way.
-/

namespace Balancer

namespace Worker

/-- Whether a service that is in order has no record, and no synchronisation of it waits. -/
structure Abandoned (worker : Worker) (id : ServiceId) : Prop where
  rightful : worker.Rightful id
  unmapped : ¬worker.Mapped id
  unasked : ¬worker.jobs.Waits (.syncService id)

/-- Whether the next job removes an earlier object of a service that was marked. -/
def RemovesNext (worker : Worker) (id : ServiceId) : Prop :=
  ∃ annotations rest, Annotations.isManaged annotations = true ∧
    worker.jobs.take = some (.removeService id annotations, rest)

/-- The removal of an earlier object takes the record of a service away, and no synchronisation of
the service waits behind it. -/
def Overtakes (id : ServiceId) (worker : Worker) (happening : Happening) : Prop :=
  happening = .turn ∧ worker.Mapped id ∧ worker.RemovesNext id ∧
    ¬worker.jobs.Waits (.syncService id)

/-- Whether the removal of an earlier object took the record of a service behind the last
synchronisation that was asked for, and the service was not synchronised since. -/
def Overtaken (start : Worker) (id : ServiceId) (history : List Happening) : Prop :=
  start.Stands (Overtakes id) (Synchronises id) history

variable {worker after : Worker} {id : ServiceId}

/-- A service was abandoned before where it has the same object, had no record that it lost, and
jobs go on waiting. -/
theorem Abandoned.frame (h : after.Abandoned id)
    (hstored : after.cluster.store.get? id = worker.cluster.store.get? id)
    (hmapped : worker.Mapped id → after.Mapped id)
    (hwaits : worker.jobs.Waits (.syncService id) → after.jobs.Waits (.syncService id)) :
    worker.Abandoned id := by
  obtain ⟨service, hservice, horder⟩ := h.rightful
  exact ⟨⟨service, hstored.symm.trans hservice, horder⟩, h.unmapped ∘ hmapped, h.unasked ∘ hwaits⟩

/-- A synchronisation of a service that is in order fails, or stores something, or the service has a
record afterwards. -/
theorem Synced.mapped_of_unchanged {outcome : Outcome} {service : Service}
    (h : worker.Synced id outcome) (hcluster : worker.cluster.Direct)
    (hstored : worker.cluster.store.get? id = some service) (hmark : service.isManaged = true)
    (hunchanged : outcome.1.cluster.store.get? id = some service) :
    outcome.2 ≠ none ∨ outcome.1.Mapped id := by
  rcases h.settled_of_unchanged hstored hmark hunchanged hcluster with
    hfailed | ⟨-, portId, mapped, hmaps, heq⟩
  · exact Or.inl hfailed
  · right
    rw [heq]
    exact (hmaps.mapped_iff id).mpr (Or.inl (hcluster.keyed id service hstored).symm)

section Turn

variable {job : Job} {rest : DelayQueue Job}
  (hcluster : worker.cluster.Direct)
  (hsettles : worker.Settles job ((worker.withJobs rest).run job) after)
  (hopen : after.jobs.queue.shuttingDown = false)
include hcluster hsettles hopen

/-- A turn that synchronises a service does not leave it abandoned. -/
theorem Settles.not_abandoned_sync (hjob : job = .syncService id) : ¬after.Abandoned id := by
  subst hjob
  intro habandoned
  have hsynced := (worker.withJobs rest).syncService_synced hcluster id
  rcases hsynced.stored_cases hcluster with hsame | ⟨service, target, hservice, hne, hget, -⟩
  · obtain ⟨service, hservice, hmark, -⟩ := habandoned.rightful
    have hrun := (hsettles.get?_eq id).symm.trans hservice
    have hbefore := (hsame id).symm.trans hrun
    rcases hsynced.mapped_of_unchanged hcluster hbefore hmark hrun with hfailed | hmapped
    · exact habandoned.unasked (hsettles.requeued hopen hfailed)
    · exact habandoned.unmapped ((hsettles.mapped_iff id).mpr hmapped)
  · -- The worker was told about the object that is stored now.
    have htarget := (hsettles.get?_eq id).trans ((hget id).trans (if_pos rfl))
    refine habandoned.unasked (hsettles.told hopen id target htarget fun hbefore => hne ?_)
    exact Option.some.inj (hbefore.symm.trans hservice)

/-- A turn leaves a service abandoned only if the service was so before, or if the turn removes an
earlier object of it while no synchronisation waits. -/
theorem Settles.abandoned (htake : worker.jobs.take = some (job, rest))
    (habandoned : after.Abandoned id) :
    worker.Abandoned id ∨
      worker.Mapped id ∧ worker.RemovesNext id ∧ ¬worker.jobs.Waits (.syncService id) := by
  have hsync : job ≠ .syncService id := by
    intro hjob
    exact hsettles.not_abandoned_sync hcluster hopen hjob habandoned
  obtain ⟨hshut, -, hwaits⟩ := hsettles.waits hcluster htake
  have hopen' := hsettles.jobs.shuttingDown.symm.trans hopen
  have hrest := ((worker.withJobs rest).carries_run hcluster job).jobs.shuttingDown
  by_cases hremove : ∃ annotations, Annotations.isManaged annotations = true ∧
      job = .removeService id annotations
  · obtain ⟨annotations, hmark, rfl⟩ := hremove
    by_cases hmapped : worker.Mapped id
    · refine Or.inr ⟨hmapped, ⟨annotations, rest, hmark, htake⟩, fun hwait => ?_⟩
      exact habandoned.unasked (hwaits (hshut.symm.trans hopen) _ hwait hsync.symm)
    · refine Or.inl (habandoned.frame ?_ (fun h => absurd h hmapped) fun hwait => ?_)
      · exact (hsettles.get?_eq id).trans ((worker.withJobs rest).get?_run_of_ne hcluster hsync)
      · exact hwaits (hshut.symm.trans hopen) _ hwait hsync.symm
  · left
    apply habandoned.frame
    · exact (hsettles.get?_eq id).trans ((worker.withJobs rest).get?_run_of_ne hcluster hsync)
    · intro hmapped
      have hother : ∀ annotations, Annotations.isManaged annotations = true →
          job ≠ .removeService id annotations :=
        fun annotations hmark hjob => hremove ⟨annotations, hmark, hjob⟩
      rcases (worker.withJobs rest).mapped_run_cases hcluster (fun h => absurd h hsync) hother
        hmapped with hkept | ⟨-, hasked⟩
      · exact (hsettles.mapped_iff id).mpr hkept
      · have hwait := hasked (hrest.symm.trans hopen')
        exact absurd (hsettles.jobs.waits hopen' _ hwait) habandoned.unasked
    · intro hwait
      exact hwaits (hshut.symm.trans hopen) _ hwait hsync.symm

end Turn

/-- Whatever happens, a service is abandoned afterwards only if it was so before and is not
synchronised, or if the removal of an earlier object overtakes it. -/
theorem abandoned_after {happening : Happening} (hcluster : worker.cluster.Direct)
    (hrule : worker.FromQueue happening)
    (hopen : (worker.after happening).jobs.queue.shuttingDown = false)
    (habandoned : (worker.after happening).Abandoned id) :
    Overtakes id worker happening ∨ worker.Abandoned id ∧ ¬Synchronises id worker happening := by
  have hopen' := (queue_after hcluster happening).2 hopen
  have hframe (hturn : happening ≠ .turn) (hshut : happening ≠ .shutDown)
      (hstored : (worker.after happening).cluster.store.get? id = worker.cluster.store.get? id)
      (hmapped : worker.Mapped id → (worker.after happening).Mapped id) :
      Overtakes id worker happening ∨ worker.Abandoned id ∧ ¬Synchronises id worker happening := by
    refine Or.inr ⟨?_, fun hsync => hturn hsync.1⟩
    exact habandoned.frame hstored hmapped ((extends_after hcluster hturn hshut).waits hopen' _)
  cases happening with
  | put service =>
    by_cases hsame : service.id = id
    · subst hsame
      exact absurd (DelayQueue.waits_add hopen' _) habandoned.unasked
    · refine hframe (by simp) (by simp) ?_ fun h => h
      rw [get?_after_put, if_neg (Ne.symm hsame)]
  | delete deleted =>
    by_cases hsame : id = deleted
    · obtain ⟨service, hservice, -⟩ := habandoned.rightful
      rw [get?_after_delete, if_pos hsame] at hservice
      cases hservice
    · refine hframe (by simp) (by simp) ?_ fun hmapped => ?_
      · rw [get?_after_delete, if_neg hsame]
      · unfold Mapped
        rwa [allocator_after_delete]
  | turn =>
    cases htake : worker.jobs.take with
    | none =>
      rw [turn_of_take_eq_none htake] at habandoned
      exact Or.inr ⟨habandoned, by simp [Synchronises, htake]⟩
    | some taken =>
      obtain ⟨job, rest⟩ := taken
      have hsettles := settles_turn htake
      rcases hsettles.abandoned hcluster hopen htake habandoned with hold | hovertakes
      · refine Or.inr ⟨hold, fun hsync => ?_⟩
        obtain ⟨-, rest', htake'⟩ := hsync
        cases htake.symm.trans htake'
        exact hsettles.not_abandoned_sync hcluster hopen rfl habandoned
      · exact Or.inl ⟨rfl, hovertakes⟩
  | execute job => exact hrule.elim
  | shutDown => cases hopen
  | _ => exact hframe (by simp) (by simp) rfl fun h => h

/-- A service without a record has none afterwards unless it is synchronised. -/
theorem not_mapped_after {happening : Happening} (hcluster : worker.cluster.Direct)
    (hrule : worker.FromQueue happening) (hsync : ¬Synchronises id worker happening)
    (hunmapped : ¬worker.Mapped id) : ¬(worker.after happening).Mapped id := by
  cases happening with
  | delete deleted =>
    unfold Mapped
    rwa [allocator_after_delete]
  | turn =>
    cases htake : worker.jobs.take with
    | none => rwa [turn_of_take_eq_none htake]
    | some taken =>
      obtain ⟨job, rest⟩ := taken
      have hother : job ≠ .syncService id := by
        rintro rfl
        exact hsync ⟨rfl, rest, htake⟩
      rw [(settles_turn htake).mapped_iff id]
      exact mt ((worker.withJobs rest).mapped_run_of_ne hcluster hother) hunmapped
  | execute job => exact hrule.elim
  | _ => exact hunmapped

/-- A service has no record once the removal of an earlier object has overtaken it. -/
theorem Overtakes.not_mapped {happening : Happening} (h : Overtakes id worker happening) :
    ¬(worker.after happening).Mapped id := by
  obtain ⟨rfl, -, ⟨annotations, rest, hmark, htake⟩, -⟩ := h
  rw [(settles_turn htake).mapped_iff id]
  exact ((worker.withJobs rest).run_removeService id hmark).1

/-- A service that was overtaken and not synchronised since has no record. -/
theorem Starting.not_mapped {start : Worker} (hstart : start.Starting) {history : List Happening}
    (hhistory : start.Follows FromQueue history) (h : start.Overtaken id history) :
    ¬(start.through history).Mapped id := by
  refine h.invariant hhistory (fun worker => ¬worker.Mapped id) ?_ ?_
  · exact fun earlier happening _ hovertakes => hovertakes.not_mapped
  · intro earlier happening hrule hunmapped hsync
    exact not_mapped_after (hstart.orderly earlier).1.cluster hrule hsync hunmapped

/-- Throughout a history over a store that was empty at first, only services whose removal was
overtaken are abandoned. -/
theorem Starting.overtaken {start : Worker} (hstart : start.Starting)
    (hempty : ∀ id, start.cluster.store.get? id = none) {history : List Happening}
    (hhistory : start.Follows FromQueue history)
    (hopen : (start.through history).jobs.queue.shuttingDown = false)
    (habandoned : (start.through history).Abandoned id) : start.Overtaken id history := by
  induction history with
  | nil =>
    obtain ⟨service, hservice, -⟩ := habandoned.rightful
    change start.cluster.store.get? id = some service at hservice
    rw [hempty] at hservice
    cases hservice
  | cons happening earlier ih =>
    have hcluster := (hstart.orderly earlier).1.cluster
    have hopen' := (queue_after hcluster happening).2 hopen
    rcases abandoned_after hcluster hhistory.2 hopen habandoned with hovertakes | ⟨hold, hsync⟩
    · exact Or.inl hovertakes
    · exact Or.inr ⟨ih hhistory.1 hopen' hold, hsync⟩

/-- No service is lost but for the overtaken ones: once the queue is quiescent, a service that is
stored, marked and manageable has a record, except exactly where the removal of an earlier object
took the record away behind the last synchronisation that was asked for, and the service was not
synchronised since. -/
theorem mapped_iff_not_overtaken {start : Worker} (hstart : start.Starting)
    (hempty : ∀ id, start.cluster.store.get? id = none) {history : List Happening}
    (hhistory : start.Follows FromQueue history)
    (hquiescent : (start.through history).jobs.Quiescent)
    (hrightful : (start.through history).Rightful id) :
    (start.through history).Mapped id ↔ ¬start.Overtaken id history := by
  have hwaits := hquiescent.not_waits (hstart.orderly history).2
  constructor
  · exact fun hmapped hovertaken => hstart.not_mapped hhistory hovertaken hmapped
  · intro hkept
    by_contra hunmapped
    have habandoned : (start.through history).Abandoned id :=
      ⟨hrightful, hunmapped, hwaits _⟩
    exact hkept (hstart.overtaken hempty hhistory hquiescent.accepting habandoned)

/-- A service as the worker leaves it in the store of the sample, with its port and status. -/
def inPlace : Service :=
  { Service.loadBalancer ⟨"ns", "web"⟩ [{ protocol := .tcp, port := 80 }] with
    annotations := ((∅ : Annotations).insert managedKey "true").insert boundPortKey "port-1"
    ingress := [{ ip := "203.0.113.1" }] }

/-- The cleanups are allowed, and a service is put, mapped and published. Before its last
synchronisation has run it is deleted and put again as it was, and then all jobs are executed. -/
def restored : List Happening :=
  [.turn, .turn, .turn, .turn, .turn, .put inPlace, .delete ⟨"ns", "web"⟩, .turn, .turn, .turn,
    .put (.loadBalancer ⟨"ns", "web"⟩ [{ protocol := .tcp, port := 80 }]), .turn,
    .request .removeCleanupBarrier]

/-- All of this may happen. -/
theorem follows_restored : sample.Follows FromQueue restored := by
  simp [restored, Follows, FromQueue]

/-- The store of the sample is empty. -/
theorem get?_sample (id : ServiceId) : sample.cluster.store.get? id = none := by
  simp [sample, start, publish, Store.get?]

/-- No job is left, and the service is stored in order, without a record. -/
theorem not_mapped_restored :
    (sample.through restored).jobs.Quiescent ∧ (sample.through restored).Rightful ⟨"ns", "web"⟩ ∧
      ¬(sample.through restored).Mapped ⟨"ns", "web"⟩ := by
  refine ⟨by decide +kernel, ⟨{ inPlace with version := 1 }, ?_, ?_, ?_⟩, ?_⟩
  · decide +kernel
  · decide +kernel
  · decide +kernel
  · unfold Mapped
    decide +kernel

/-- The removal of the deleted service was overtaken. -/
theorem mapped_iff_not_overtaken_restored : sample.Overtaken ⟨"ns", "web"⟩ restored := by
  obtain ⟨hquiescent, hrightful, hunmapped⟩ := not_mapped_restored
  by_contra hkept
  exact hunmapped ((mapped_iff_not_overtaken starting_sample get?_sample follows_restored hquiescent
    hrightful).mpr hkept)

/-- So not every service that is in order in a quiescent state has a record. -/
theorem exists_lost_service :
    ¬∀ (start : Worker) (history : List Happening) (id : ServiceId), start.Starting →
      (∀ id, start.cluster.store.get? id = none) → start.Follows FromQueue history →
        (start.through history).jobs.Quiescent → (start.through history).Rightful id →
          (start.through history).Mapped id := by
  intro hall
  obtain ⟨hquiescent, hrightful, hunmapped⟩ := not_mapped_restored
  exact hunmapped
    (hall sample restored _ starting_sample get?_sample follows_restored hquiescent hrightful)

end Worker

end Balancer
