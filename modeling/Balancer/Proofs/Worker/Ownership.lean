import Mathlib
import Balancer.Proofs.Worker.Effects

/-!
# Who may hold numbers

A service with a record is stored, marked and manageable, or some job that waits is going to take
the record away. There is one exception: users can take the mark off a mapped service, by opting it
out with the value `false` or by putting an object of another kind without it. The jobs that then
synchronise or remove the unmarked service leave its record alone, so that the record may stay for
good, even once the service is deleted. Nothing else leaks.
-/

namespace Balancer

namespace Worker

/-- Whether a service is stored, marked as managed and manageable. -/
def Rightful (worker : Worker) (id : ServiceId) : Prop :=
  ∃ service, worker.cluster.store.get? id = some service ∧ service.isManaged = true ∧
    service.canManage = true

/-- Whether the removal of a managed service waits. -/
def Leaving (worker : Worker) (id : ServiceId) : Prop :=
  ∃ annotations, Annotations.isManaged annotations = true ∧
    worker.jobs.Waits (.removeService id annotations)

/-- Whether the record of a service is in order, or a job that takes it away waits. -/
def Justified (worker : Worker) (id : ServiceId) : Prop :=
  (∃ service, worker.cluster.store.get? id = some service ∧ service.isManaged = true ∧
    (service.canManage = true ∨ worker.jobs.Waits (.syncService id))) ∨ worker.Leaving id

/-- The worker synchronises a service. -/
def Synchronises (id : ServiceId) (worker : Worker) (happening : Happening) : Prop :=
  happening = .turn ∧ ∃ rest, worker.jobs.take = some (.syncService id, rest)

/-- A user takes the mark off a service: an object without it replaces one that has it. -/
def Unmarks (id : ServiceId) (worker : Worker) (happening : Happening) : Prop :=
  worker.Owned id ∧ ∃ service, happening = .put service ∧ service.id = id ∧
    service.isManaged = false

/-- A service is marked: a user puts an object with the mark, or the worker synchronises a service
that may be managed while the store is read and written. -/
def Marks (id : ServiceId) (worker : Worker) (happening : Happening) : Prop :=
  (∃ service, happening = .put service ∧ service.id = id ∧ service.isManaged = true) ∨
    Synchronises id worker happening ∧
      (∃ service, worker.cluster.store.get? id = some service ∧ service.canManage = true) ∧
      worker.cluster.readsFailing = false ∧ worker.cluster.store.writesFailing = false

/-- Whether the mark was taken off a service by a user, and the service was not marked again
since. -/
def Withdrawn (start : Worker) (id : ServiceId) (history : List Happening) : Prop :=
  start.Stands (Unmarks id) (Marks id) history

variable {worker after : Worker} {id : ServiceId}

/-- The justification of a record lasts while the stored object is the same and jobs go on
waiting. -/
theorem Justified.mono (h : worker.Justified id)
    (hstored : after.cluster.store.get? id = worker.cluster.store.get? id)
    (hsync : worker.jobs.Waits (.syncService id) → after.jobs.Waits (.syncService id))
    (hremove : ∀ annotations, Annotations.isManaged annotations = true →
      worker.jobs.Waits (.removeService id annotations) →
        after.jobs.Waits (.removeService id annotations)) : after.Justified id := by
  rcases h with ⟨service, hservice, hmark, hwhy⟩ | ⟨annotations, hannotations, hwaits⟩
  · exact Or.inl ⟨service, hstored.trans hservice, hmark, hwhy.imp (fun h => h) hsync⟩
  · exact Or.inr ⟨annotations, hannotations, hremove annotations hannotations hwaits⟩

/-- Whether a service is owned depends on its stored object only. -/
theorem Owned.of_eq (h : after.Owned id)
    (hstored : after.cluster.store.get? id = worker.cluster.store.get? id) : worker.Owned id := by
  obtain ⟨service, hservice, hmark⟩ := h
  exact ⟨service, hstored.symm.trans hservice, hmark⟩

/-- A service that a user puts is owned exactly if the object has the mark. -/
theorem owned_after_put {service : Service} :
    (worker.after (.put service)).Owned service.id ↔ service.isManaged = true := by
  have hget := (worker.get?_after_put service service.id).trans (if_pos rfl)
  simp only [Owned, hget, Option.some.injEq, exists_eq_left']
  rfl

section Turn

variable {job : Job} {rest : DelayQueue Job}
  (hcluster : worker.cluster.Direct) (htake : worker.jobs.take = some (job, rest))
  (hsettles : worker.Settles job ((worker.withJobs rest).run job) after)
  (hopen : after.jobs.queue.shuttingDown = false)
include hcluster htake hsettles hopen

/-- The removal of a marked object that waits before a turn waits afterwards, unless the turn
executes it and the record is gone. -/
theorem Settles.leaving (hmapped : after.Mapped id) (h : worker.Leaving id) : after.Leaving id := by
  obtain ⟨hshut, -, hwaits⟩ := hsettles.waits hcluster htake
  obtain ⟨annotations, hannotations, hwait⟩ := h
  refine ⟨annotations, hannotations, hwaits (hshut.symm.trans hopen) _ hwait ?_⟩
  intro hjob
  subst hjob
  have hgone := ((worker.withJobs rest).run_removeService id hannotations).1
  exact hgone ((hsettles.mapped_iff id).mp hmapped)

/-- A record that is in order before a turn is so afterwards, where the turn does not synchronise
the service. -/
theorem Settles.kept (hsync : job ≠ .syncService id) (hmapped : after.Mapped id)
    (h : worker.Justified id) : after.Justified id := by
  obtain ⟨hshut, -, hwaits⟩ := hsettles.waits hcluster htake
  have hstored : after.cluster.store.get? id = worker.cluster.store.get? id :=
    (hsettles.get?_eq id).trans ((worker.withJobs rest).get?_run_of_ne hcluster hsync)
  rcases h with ⟨service, hservice, hmark, hwhy⟩ | hleaving
  · have hstill := hstored.trans hservice
    rcases hwhy with hkind | hwait
    · exact Or.inl ⟨service, hstill, hmark, Or.inl hkind⟩
    · have hwait' := hwaits (hshut.symm.trans hopen) _ hwait hsync.symm
      exact Or.inl ⟨service, hstill, hmark, Or.inr hwait'⟩
  · exact Or.inr (hsettles.leaving hcluster htake hopen hmapped hleaving)

end Turn

/-- After its synchronisation a record is in order, unless the mark had been taken off before and
the stored object is still the same. -/
theorem Settles.justified_sync {rest : DelayQueue Job} {withdrawn : Prop}
    (hcluster : worker.cluster.Direct) (htake : worker.jobs.take = some (.syncService id, rest))
    (hsettles : worker.Settles (.syncService id)
      ((worker.withJobs rest).run (.syncService id)) after)
    (hopen : after.jobs.queue.shuttingDown = false)
    (h : worker.Mapped id → worker.Justified id ∨ withdrawn) (hmapped : after.Mapped id) :
    after.Justified id ∨
      after.cluster.store.get? id = worker.cluster.store.get? id ∧ withdrawn := by
  have hsynced := (worker.withJobs rest).syncService_synced hcluster id
  have hrun := (hsettles.mapped_iff id).mp hmapped
  rcases hsynced.stored_cases hcluster with hsame | ⟨service, target, hservice, hne, hget, htarget⟩
  · -- Nothing is stored: the synchronisation failed, or the service is manageable.
    have hunchanged := (hsettles.get?_eq id).trans (hsame id)
    rcases hsynced.mapped hcluster hrun with hold | ⟨-, service, hservice, hkind, hmark⟩
    · rcases h hold with (⟨service, hservice, hmark, -⟩ | hleaving) | hgone
      · have hprogress := hsynced.progress hservice hmark ((hsame id).trans hservice) hcluster
        refine Or.inl (Or.inl ⟨service, hunchanged.trans hservice, hmark, ?_⟩)
        exact hprogress.symm.imp And.left (hsettles.requeued hopen)
      · exact Or.inl (Or.inr (hsettles.leaving hcluster htake hopen hmapped hleaving))
      · exact Or.inr ⟨hunchanged, hgone⟩
    · exact Or.inl (Or.inl ⟨service, hunchanged.trans hservice, hmark, Or.inl hkind⟩)
  · -- The stored object is marked, and the worker was told about it.
    have hmark : target.isManaged = true := htarget.resolve_right fun hgone => hgone.1 hrun
    have htarget' := (hsettles.get?_eq id).trans ((hget id).trans (if_pos rfl))
    refine Or.inl (Or.inl ⟨target, htarget', hmark, Or.inr ?_⟩)
    apply hsettles.told hopen id target htarget'
    intro hbefore
    exact hne (Option.some.inj (hbefore.symm.trans hservice))

/-- After a turn a record is in order, or a job that takes it away waits, unless the mark had been
taken off. -/
theorem Settles.justified {job : Job} {rest : DelayQueue Job} {withdrawn : Prop}
    (hcluster : worker.cluster.Direct) (htake : worker.jobs.take = some (job, rest))
    (hsettles : worker.Settles job ((worker.withJobs rest).run job) after)
    (hopen : after.jobs.queue.shuttingDown = false) (hwithdrawn : withdrawn → ¬worker.Owned id)
    (h : worker.Mapped id → worker.Justified id ∨ withdrawn) (hmapped : after.Mapped id) :
    after.Justified id ∨ ¬after.Owned id ∧ withdrawn := by
  by_cases hsync : job = .syncService id
  · subst hsync
    rcases hsettles.justified_sync hcluster htake hopen h hmapped with hkept | ⟨hstored, hgone⟩
    · exact Or.inl hkept
    · exact Or.inr ⟨fun howned => hwithdrawn hgone (howned.of_eq hstored), hgone⟩
  · have hold : worker.Mapped id :=
      (worker.withJobs rest).mapped_run_of_ne hcluster hsync ((hsettles.mapped_iff id).mp hmapped)
    rcases h hold with hjustified | hgone
    · exact Or.inl (hsettles.kept hcluster htake hopen hsync hmapped hjustified)
    · have hstored : after.cluster.store.get? id = worker.cluster.store.get? id :=
        (hsettles.get?_eq id).trans ((worker.withJobs rest).get?_run_of_ne hcluster hsync)
      exact Or.inr ⟨fun howned => hwithdrawn hgone (howned.of_eq hstored), hgone⟩


/-- Where the stored object is the same and jobs go on waiting, a record stays in order. -/
theorem Justified.frame {withdrawn : Prop} (cause : Prop) (h : worker.Justified id ∨ withdrawn)
    (hwithdrawn : withdrawn → ¬worker.Owned id)
    (hstored : after.cluster.store.get? id = worker.cluster.store.get? id)
    (hwaits : ∀ job, worker.jobs.Waits job → after.jobs.Waits job) :
    after.Justified id ∨ ¬after.Owned id ∧ (withdrawn ∨ cause) := by
  rcases h with hjustified | hgone
  · exact Or.inl (hjustified.mono hstored (hwaits _) fun _ _ => hwaits _)
  · exact Or.inr ⟨fun howned => hwithdrawn hgone (howned.of_eq hstored), Or.inl hgone⟩

/-- A put object is marked and going to be synchronised, or a user has taken the mark off, or the
removal of an earlier object still waits. -/
theorem justified_put {service : Service} {withdrawn : Prop}
    (hopen : worker.jobs.queue.shuttingDown = false)
    (h : worker.Justified service.id ∨ withdrawn) :
    (worker.after (.put service)).Justified service.id ∨
      ¬(worker.after (.put service)).Owned service.id ∧
        (withdrawn ∨ worker.Owned service.id) := by
  have hstored : (worker.after (.put service)).cluster.store.get? service.id =
      some { service with version := worker.cluster.store.versionOf service.id + 1 } :=
    (worker.get?_after_put service service.id).trans (if_pos rfl)
  by_cases hmark : service.isManaged = true
  · exact Or.inl (Or.inl ⟨_, hstored, hmark, Or.inr (DelayQueue.waits_add hopen _)⟩)
  · have hfree : ¬(worker.after (.put service)).Owned service.id := by
      intro howned
      obtain ⟨object, hobject, hmark'⟩ := howned
      rw [hstored] at hobject
      cases hobject
      exact hmark hmark'
    rcases h with (⟨object, hobject, hmark', -⟩ | ⟨annotations, hannotations, hwait⟩) | hgone
    · exact Or.inr ⟨hfree, Or.inr ⟨object, hobject, hmark'⟩⟩
    · refine Or.inl (Or.inr ⟨annotations, hannotations, ?_⟩)
      exact (worker.jobs.extends_add _).waits hopen _ hwait
    · exact Or.inr ⟨hfree, Or.inl hgone⟩

/-- The removal of a deleted object waits if the object was marked. -/
theorem justified_delete {withdrawn cause : Prop}
    (hopen : worker.jobs.queue.shuttingDown = false) (hwithdrawn : withdrawn → ¬worker.Owned id)
    (h : worker.Justified id ∨ withdrawn) :
    (worker.after (.delete id)).Justified id ∨
      ¬(worker.after (.delete id)).Owned id ∧ (withdrawn ∨ cause) := by
  cases hstored : worker.cluster.store.get? id with
  | none =>
    rw [after_delete_of_absent hstored]
    exact Justified.frame _ h hwithdrawn rfl fun _ hwait => hwait
  | some deleted =>
    rcases h with (⟨object, hobject, hmark, -⟩ | ⟨annotations, hannotations, hwait⟩) | hgone
    · cases hstored.symm.trans hobject
      refine Or.inl (Or.inr ⟨deleted.annotations, hmark, ?_⟩)
      rw [after_delete_of_stored hstored]
      exact DelayQueue.waits_add hopen _
    · refine Or.inl (Or.inr ⟨annotations, hannotations, ?_⟩)
      rw [after_delete_of_stored hstored]
      exact (worker.jobs.extends_add _).waits hopen _ hwait
    · right
      constructor
      · intro howned
        obtain ⟨object, hobject, -⟩ := howned
        rw [get?_after_delete, if_pos rfl] at hobject
        cases hobject
      · exact Or.inl hgone

/-- Whatever happens, a record is in order afterwards, or a job that takes it away waits, or the
mark had been taken off and was not put back, or a user takes it off now. -/
theorem justified_after {happening : Happening} {withdrawn : Prop}
    (hcluster : worker.cluster.Direct) (hrule : worker.FromQueue happening)
    (hopen : (worker.after happening).jobs.queue.shuttingDown = false)
    (hwithdrawn : withdrawn → ¬worker.Owned id)
    (h : worker.Mapped id → worker.Justified id ∨ withdrawn)
    (hmapped : (worker.after happening).Mapped id) :
    (worker.after happening).Justified id ∨ ¬(worker.after happening).Owned id ∧
      (withdrawn ∨ worker.Owned id ∧ ∃ service, happening = .put service ∧ service.id = id) := by
  have hopen' := (queue_after hcluster happening).2 hopen
  have hframe (hturn : happening ≠ .turn) (hshut : happening ≠ .shutDown)
      (hstored : (worker.after happening).cluster.store.get? id = worker.cluster.store.get? id)
      (hold : worker.Mapped id) :=
    Justified.frame (worker.Owned id ∧ ∃ service, happening = .put service ∧ service.id = id)
      (h hold) hwithdrawn hstored ((extends_after hcluster hturn hshut).waits hopen')
  cases happening with
  | put service =>
    by_cases hsame : service.id = id
    · subst hsame
      rcases justified_put hopen' (h hmapped) with hjustified | ⟨hfree, hgone | howned⟩
      · exact Or.inl hjustified
      · exact Or.inr ⟨hfree, Or.inl hgone⟩
      · exact Or.inr ⟨hfree, Or.inr ⟨howned, service, rfl, rfl⟩⟩
    · refine hframe (by simp) (by simp) ?_ hmapped
      rw [get?_after_put, if_neg (Ne.symm hsame)]
  | delete deleted =>
    have hold : worker.Mapped id := by
      unfold Mapped at hmapped ⊢
      rwa [allocator_after_delete] at hmapped
    by_cases hsame : id = deleted
    · subst hsame
      exact justified_delete hopen' hwithdrawn (h hold)
    · refine hframe (by simp) (by simp) ?_ hold
      rw [get?_after_delete, if_neg hsame]
  | turn =>
    rcases worker.turn_cases with heq | ⟨job, rest, htake, hsettles⟩
    · rw [heq] at hmapped ⊢
      exact Justified.frame _ (h hmapped) hwithdrawn rfl fun _ hwait => hwait
    · rcases hsettles.justified hcluster htake hopen hwithdrawn h hmapped with
        hjustified | ⟨hfree, hgone⟩
      · exact Or.inl hjustified
      · exact Or.inr ⟨hfree, Or.inl hgone⟩
  | execute job => exact hrule.elim
  | shutDown => cases hopen
  | _ => exact hframe (by simp) (by simp) rfl hmapped

/-- The synchronisation of an unmarked service marks it exactly if it may be managed and the store
is read and written. -/
theorem owned_syncService_iff (hcluster : worker.cluster.Direct) (hfree : ¬worker.Owned id) :
    (worker.run (.syncService id)).1.Owned id ↔
      (∃ service, worker.cluster.store.get? id = some service ∧ service.canManage = true) ∧
        worker.cluster.readsFailing = false ∧ worker.cluster.store.writesFailing = false := by
  change (worker.syncService id).1.Owned id ↔ _
  simp only [syncService, hcluster.service_eq]
  cases hreads : worker.cluster.readsFailing with
  | true => exact iff_of_false hfree (by simp)
  | false =>
    cases hstored : worker.cluster.store.get? id with
    | none => exact iff_of_false hfree (by simp)
    | some service =>
      cases hcluster.keyed id service hstored
      have hmark : service.isManaged = false := by
        cases hmark : service.isManaged with
        | false => rfl
        | true => exact absurd ⟨service, hstored, hmark⟩ hfree
      cases hkind : service.canManage with
      | false => simpa [hkind, hmark] using hfree
      | true =>
        cases hwrites : worker.cluster.store.writesFailing with
        | true =>
          have hrefused := updateService_of_writesFailing hwrites service.markManaged
          simpa [hkind, hmark, takeOver, hrefused, followedBy] using hfree
        | false =>
          have hstores := updateService_eq hwrites hstored service.markManaged rfl rfl rfl
          refine iff_of_true ⟨service.markManaged.renewed, ?_, service.isManaged_markManaged⟩
            ⟨⟨service, rfl, hkind⟩, rfl, rfl⟩
          simp only [Bool.false_eq_true, if_false, hkind, hmark, takeOver, hstores, followedBy]
          exact (worker.get?_storing _ _ _).trans (if_pos rfl)

/-- An unmarked service is marked afterwards exactly if it is marked now. -/
theorem owned_after_iff {happening : Happening} (hcluster : worker.cluster.Direct)
    (hrule : worker.FromQueue happening) (hfree : ¬worker.Owned id) :
    (worker.after happening).Owned id ↔ Marks id worker happening := by
  cases happening with
  | put service =>
    by_cases hsame : id = service.id
    · subst hsame
      simp [owned_after_put, Marks, Synchronises]
    · have hget := (worker.get?_after_put service id).trans (if_neg hsame)
      refine iff_of_false (fun howned => hfree (howned.of_eq hget)) ?_
      simp [Marks, Synchronises, Ne.symm hsame]
  | delete deleted =>
    refine iff_of_false ?_ (by simp [Marks, Synchronises])
    rintro ⟨service, hservice, hmark⟩
    rw [get?_after_delete] at hservice
    split at hservice
    · cases hservice
    · exact hfree ⟨service, hservice, hmark⟩
  | turn =>
    cases htake : worker.jobs.take with
    | none =>
      rw [turn_of_take_eq_none htake]
      exact iff_of_false hfree (by simp [Marks, Synchronises, htake])
    | some taken =>
      obtain ⟨job, rest⟩ := taken
      have hget := (settles_turn htake).get?_eq id
      by_cases hsync : job = .syncService id
      · subst hsync
        have howned : (worker.after .turn).Owned id ↔
            ((worker.withJobs rest).run (.syncService id)).1.Owned id :=
          ⟨fun h => h.of_eq hget, fun h => h.of_eq hget.symm⟩
        have hsynced := (worker.withJobs rest).owned_syncService_iff hcluster hfree
        rw [howned, hsynced]
        simp [Marks, Synchronises, htake, withJobs]
      · have hkept := hget.trans ((worker.withJobs rest).get?_run_of_ne hcluster hsync)
        refine iff_of_false (fun howned => hfree (howned.of_eq hkept)) ?_
        simp [Marks, Synchronises, htake, hsync]
  | execute job => exact hrule.elim
  | _ => exact iff_of_false hfree (by simp [Marks, Synchronises])

/-- A service whose mark was taken off is not owned. -/
theorem Starting.not_owned {start : Worker} (hstart : start.Starting) {history : List Happening}
    (hhistory : start.Follows FromQueue history) (h : start.Withdrawn id history) :
    ¬(start.through history).Owned id := by
  refine h.invariant hhistory (fun worker => ¬worker.Owned id) ?_ ?_
  · rintro earlier _ - ⟨-, service, rfl, rfl, hmark⟩ howned
    rw [owned_after_put.mp howned] at hmark
    cases hmark
  · intro earlier happening hrule hfree hstill howned
    exact hstill ((owned_after_iff (hstart.orderly earlier).1.cluster hrule hfree).mp howned)

/-- Throughout a history, every record is in order, or a job that takes it away waits, or the mark
was taken off. -/
theorem Starting.justified {start : Worker} (hstart : start.Starting) {history : List Happening}
    (hhistory : start.Follows FromQueue history)
    (hopen : (start.through history).jobs.queue.shuttingDown = false)
    (hmapped : (start.through history).Mapped id) :
    (start.through history).Justified id ∨ start.Withdrawn id history := by
  induction history with
  | nil =>
    change id ∈ start.allocator.records at hmapped
    rw [hstart.records] at hmapped
    exact absurd hmapped Std.ExtTreeMap.not_mem_empty
  | cons happening earlier ih =>
    have hcluster := (hstart.orderly earlier).1.cluster
    have hopen' := (queue_after hcluster happening).2 hopen
    have hgone : start.Withdrawn id earlier → ¬(start.through earlier).Owned id :=
      hstart.not_owned hhistory.1
    rcases justified_after hcluster hhistory.2 hopen hgone (ih hhistory.1 hopen') hmapped with
      hjustified | ⟨hfree, hearlier | ⟨howned, service, rfl, rfl⟩⟩
    · exact Or.inl hjustified
    · refine Or.inr (Or.inr ⟨hearlier, fun hmarks => hfree ?_⟩)
      exact (owned_after_iff hcluster hhistory.2 (hgone hearlier)).mpr hmarks
    · have hmark : service.isManaged = false :=
        Bool.eq_false_iff.mpr fun hmark => hfree (owned_after_put.mpr hmark)
      exact Or.inr (Or.inl ⟨howned, service, rfl, rfl, hmark⟩)

/-- No mapping leaks but for the withdrawn marks: once the queue is quiescent, a service with a
record is stored, marked and manageable, except exactly where a user took the mark off the service
and it was not marked again since. -/
theorem rightful_iff_not_withdrawn {start : Worker} (hstart : start.Starting)
    {history : List Happening} (hhistory : start.Follows FromQueue history)
    (hquiescent : (start.through history).jobs.Quiescent)
    (hmapped : (start.through history).Mapped id) :
    (start.through history).Rightful id ↔ ¬start.Withdrawn id history := by
  have hwaits := hquiescent.not_waits (hstart.orderly history).2
  constructor
  · intro hrightful hgone
    obtain ⟨service, hservice, hmark, -⟩ := hrightful
    exact hstart.not_owned hhistory hgone ⟨service, hservice, hmark⟩
  · intro hkept
    rcases hstart.justified hhistory hquiescent.accepting hmapped with hjustified | hgone
    · rcases hjustified with ⟨service, hservice, hmark, hwhy⟩ | ⟨annotations, -, hwait⟩
      · exact ⟨service, hservice, hmark, hwhy.resolve_right (hwaits _)⟩
      · exact absurd hwait (hwaits _)
    · exact absurd hgone hkept

/-- A service is put and mapped, then opted out by its user and deleted, and no job is left. -/
def optedOut : List Happening :=
  [.turn, .turn, .delete ⟨"ns", "web"⟩,
    .put { Service.loadBalancer ⟨"ns", "web"⟩ [{ protocol := .tcp, port := 80 }] with
      annotations := (∅ : Annotations).insert managedKey "false" },
    .turn, .turn, .turn, .turn, .turn, .turn,
    .put (.loadBalancer ⟨"ns", "web"⟩ [{ protocol := .tcp, port := 80 }])]

/-- All of this may happen. -/
theorem follows_optedOut : sample.Follows FromQueue optedOut := by
  simp [optedOut, Follows, FromQueue]

/-- The deleted service still has its record, and nothing is going to take it away. -/
theorem mapped_optedOut :
    (sample.through optedOut).jobs.Quiescent ∧
      (sample.through optedOut).Mapped ⟨"ns", "web"⟩ ∧
      (sample.through optedOut).cluster.store.get? ⟨"ns", "web"⟩ = none := by
  unfold Mapped
  decide +kernel

/-- The mark of the deleted service was taken off by its user. -/
theorem rightful_iff_not_withdrawn_optedOut : sample.Withdrawn ⟨"ns", "web"⟩ optedOut := by
  obtain ⟨hquiescent, hmapped, hdeleted⟩ := mapped_optedOut
  by_contra hkept
  obtain ⟨service, hservice, -⟩ :=
    (rightful_iff_not_withdrawn starting_sample follows_optedOut hquiescent hmapped).mpr hkept
  rw [hdeleted] at hservice
  cases hservice

/-- So not every record in a quiescent state is that of a stored, marked and manageable service. -/
theorem exists_leaked_record :
    ¬∀ (start : Worker) (history : List Happening) (id : ServiceId), start.Starting →
      start.Follows FromQueue history → (start.through history).jobs.Quiescent →
        (start.through history).Mapped id → (start.through history).Rightful id := by
  intro hall
  obtain ⟨hquiescent, hmapped, hdeleted⟩ := mapped_optedOut
  obtain ⟨service, hservice, -⟩ :=
    hall sample optedOut ⟨"ns", "web"⟩ starting_sample follows_optedOut hquiescent hmapped
  rw [hdeleted] at hservice
  cases hservice

end Worker

end Balancer
