import Mathlib
import Balancer.Proofs.Worker.History

/-!
# Published statuses

A published status always shows the address of the port that the service is bound to, namely the
address that the pool gave to the port when it was made, whether or not the port still exists. The
binding and the status are written by separate updates, which may fail one by one, and the
allocator may be ahead of both. What keeps them together is that the binding is written only while
no status is published, and a status only for the recorded binding.
-/

namespace Balancer

namespace Service

/-- A published status is the one entry with the address given to the port that the service is
bound to. -/
def StatusBound (service : Service) (pool : Pool) : Prop :=
  service.ingress ≠ [] → ∃ portId external internal, service.boundPort = some portId ∧
    pool.Assigns portId external internal ∧
      service.ingress = [{ ip := external.ip, hostname := external.hostname }]

/-- A service without a status meets the condition. -/
theorem statusBound_of_ingress_eq (service : Service) (h : service.ingress = []) (pool : Pool) :
    service.StatusBound pool :=
  fun hstatus => absurd h hstatus

/-- A service has no status when none is published. -/
theorem ingress_eq_nil {service : Service} (h : service.hasIngress = false) :
    service.ingress = [] := by
  simpa [hasIngress] using h

/-- The condition reads the status and the binding only, and it survives a pool that gives the same
addresses. -/
theorem StatusBound.of_eq {service other : Service} {pool rest : Pool}
    (h : service.StatusBound pool) (hingress : other.ingress = service.ingress)
    (hbound : other.annotation boundPortKey = service.annotation boundPortKey)
    (hpool : pool.KeepsAddresses rest) : other.StatusBound rest := by
  intro hstatus
  rw [hingress] at hstatus ⊢
  obtain ⟨portId, external, internal, hport, hgiven, heq⟩ := h hstatus
  refine ⟨portId, external, internal, ?_, hpool _ _ _ hgiven, heq⟩
  rwa [boundPort, hbound]

/-- Marking a service as taken over leaves its binding alone. -/
theorem annotation_markManaged (service : Service) :
    service.markManaged.annotation boundPortKey = service.annotation boundPortKey := by
  have hkeys : managedKey ≠ boundPortKey := by decide
  unfold annotation markManaged
  simp [Std.ExtTreeMap.getElem?_insert, hkeys]

end Service

namespace Worker

/-- Every stored service has a status that fits its binding. -/
def StatusesBound (worker : Worker) : Prop :=
  ∀ id service, worker.cluster.store.get? id = some service → service.StatusBound worker.pool

/-- Users create services without a status, and their edits leave the status and the binding of a
service as they are. -/
def SparesStatus (worker : Worker) : Happening → Prop
  | .put service =>
    match worker.cluster.store.get? service.id with
    | none => service.ingress = []
    | some stored => service.ingress = stored.ingress ∧
        service.annotation boundPortKey = stored.annotation boundPortKey
  | _ => True

variable {worker : Worker}

/-- The object that an update tries to store meets the condition: its status is empty, unchanged
together with the binding, or the address of the recorded port. -/
theorem Attempt.statusBound {service target : Service} {base : Worker} {push : Bool}
    (h : worker.Attempt service base target push) (hworker : worker.Grounded)
    (hservice : service.StatusBound worker.pool) : target.StatusBound base.pool := by
  have hbase := h.carries.grounded hworker
  cases h with
  | takeOver =>
    exact hservice.of_eq rfl service.annotation_markManaged fun _ _ _ hgiven => hgiven
  | withdraw => exact Service.statusBound_of_ingress_eq _ rfl _
  | release _ _ hstatus =>
    exact service.disown.statusBound_of_ingress_eq (Service.ingress_eq_nil hstatus) _
  | stale => exact Service.statusBound_of_ingress_eq _ rfl _
  | @commit _ _ portId _ _ hstatus =>
    exact (service.setBoundPort portId).statusBound_of_ingress_eq
      (Service.ingress_eq_nil hstatus) _
  | clearFirst => exact Service.statusBound_of_ingress_eq _ rfl _
  | @publish _ _ portId mapped address _ hbound haddress =>
    intro _
    obtain ⟨internal, hgiven⟩ := Pool.assigns_of_external hbase.pool haddress
    exact ⟨portId, address, internal, hbound, hgiven, rfl⟩

/-- Statuses go on fitting where the same objects are stored and the pool gives the same
addresses. -/
theorem StatusesBound.of_eq {other : Worker} (h : worker.StatusesBound)
    (hstored : ∀ id, other.cluster.store.get? id = worker.cluster.store.get? id)
    (hpool : worker.pool.KeepsAddresses other.pool) : other.StatusesBound := by
  intro id service hservice
  rw [hstored] at hservice
  exact (h id service hservice).of_eq rfl rfl hpool

/-- The outcome of an update keeps the statuses fitting. -/
theorem Tried.statusesBound {target : Service} {push : Bool} {outcome : Outcome}
    (htried : worker.Tried target push outcome) (h : worker.StatusesBound)
    (htarget : target.StatusBound worker.pool) : outcome.1.StatusesBound := by
  cases htried with
  | refused => exact h
  | stored events =>
    intro id service hservice
    change (worker.storing target.renewed events).cluster.store.get? id = _ at hservice
    rw [get?_storing] at hservice
    split at hservice
    · cases hservice
      exact htarget
    · exact h id service hservice

/-- A synchronisation keeps the statuses fitting. -/
theorem Synced.statusesBound {id : ServiceId} {outcome : Outcome}
    (hsynced : worker.Synced id outcome) (h : worker.StatusesBound) (hworker : worker.Grounded) :
    outcome.1.StatusesBound := by
  have hpool := hsynced.carries.keepsAddresses hworker
  cases hsynced with
  | unreadable => exact h
  | absent => exact h
  | ignored => exact h
  | unmappable => exact h.of_eq (fun _ => rfl) hpool
  | unaddressed _ _ _ hmaps => exact h.of_eq hmaps.get?_eq hpool
  | settled _ _ _ hmaps => exact h.of_eq hmaps.get?_eq hpool
  | tried hstored hattempt htried =>
    have hbase := h.of_eq hattempt.get?_eq (hattempt.carries.keepsAddresses hworker)
    exact htried.statusesBound hbase (hattempt.statusBound hworker (h _ _ hstored))

/-- Every job keeps the statuses fitting. -/
theorem StatusesBound.run (h : worker.StatusesBound) (hworker : worker.Grounded) (job : Job) :
    (worker.run job).1.StatusesBound := by
  by_cases hjob : ∃ id, job = .syncService id
  · obtain ⟨id, rfl⟩ := hjob
    exact (worker.syncService_synced hworker.cluster id).statusesBound h hworker
  · rw [not_exists] at hjob
    have hcarries := worker.carries_run hworker.cluster job
    exact h.of_eq (worker.get?_run hjob) (hcarries.keepsAddresses hworker)

/-- Settling a job with the queue leaves the statuses alone. -/
theorem StatusesBound.settles {before after : Worker} {job : Job} {outcome : Outcome}
    (h : outcome.1.StatusesBound) (hsettles : before.Settles job outcome after) :
    after.StatusesBound := by
  intro id service hservice
  rw [hsettles.cluster] at hservice
  rw [hsettles.pool]
  exact h id service hservice

/-- A put object meets the condition if the users keep to the rule. -/
theorem StatusesBound.put (h : worker.StatusesBound) {service : Service}
    (hrule : worker.SparesStatus (.put service)) : (worker.after (.put service)).StatusesBound := by
  intro id object hobject
  rw [get?_after_put] at hobject
  split at hobject
  · cases hobject
    simp only [SparesStatus] at hrule
    split at hrule
    · exact Service.statusBound_of_ingress_eq _ hrule _
    · next stored hstored =>
      exact (h _ stored hstored).of_eq hrule.1 hrule.2 fun _ _ _ hgiven => hgiven
  · exact h id object hobject

/-- Everything that the rule permits keeps the statuses fitting. -/
theorem StatusesBound.after (h : worker.StatusesBound) (hworker : worker.Grounded)
    {happening : Happening} (hrule : worker.SparesStatus happening) :
    (worker.after happening).StatusesBound := by
  have hpool := hworker.keepsAddresses happening
  cases happening with
  | put service => exact h.put hrule
  | delete id =>
    intro other object hobject
    rw [get?_after_delete] at hobject
    split at hobject
    · cases hobject
    · exact (h other object hobject).of_eq rfl rfl hpool
  | turn =>
    rcases worker.turn_cases with heq | ⟨job, rest, -, hsettles⟩
    · rwa [heq]
    · have hground : (worker.withJobs rest).Grounded := ⟨hworker.pool, hworker.cluster⟩
      have hhanded : (worker.withJobs rest).StatusesBound := h
      exact (hhanded.run hground job).settles hsettles
  | execute job =>
    exact (h.run hworker job).settles (worker.execute_settles job)
  | _ => exact h.of_eq (fun _ => rfl) hpool

/-- The published status never points at a port that the service is not bound to: it holds after
every history in which users leave the statuses and bindings of existing services alone, if it
held at its start. -/
theorem statuses_bound {start : Worker} {history : List Happening} (hpool : start.pool.Reachable)
    (hcluster : start.cluster.Direct) (hstart : start.StatusesBound)
    (hhistory : start.Follows SparesStatus history) : (start.through history).StatusesBound := by
  have hall : (start.through history).Grounded ∧ (start.through history).StatusesBound := by
    refine hhistory.invariant (fun worker => worker.Grounded ∧ worker.StatusesBound)
      ⟨⟨hpool.sound, hcluster⟩, hstart⟩ ?_
    intro worker happening hworker hrule
    exact ⟨hworker.1.after happening, hworker.2.after hworker.1 hrule⟩
  exact hall.2

/-- A service is put and brought up to date in four turns, and then its port is removed. -/
def strandedStatus : List Happening :=
  [.changePool (.remove "port-1"), .turn, .turn, .turn, .turn,
    .put (.loadBalancer ⟨"ns", "web"⟩ [{ protocol := .tcp, port := 80 }])]

/-- The status of the service still shows the address of the removed port. -/
theorem statuses_bound_stranded :
    (sample.through strandedStatus).StatusesBound ∧
      ((sample.through strandedStatus).cluster.store.get? ⟨"ns", "web"⟩).map Service.ingress =
        some [{ ip := "203.0.113.1" }] ∧ (sample.through strandedStatus).pool.ports = [] := by
  have hstart : sample.StatusesBound := by
    intro id service hservice
    simp [sample, start, publish, Store.get?] at hservice
  have hput : sample.SparesStatus
      (.put (.loadBalancer ⟨"ns", "web"⟩ [{ protocol := .tcp, port := 80 }])) := by
    simp [SparesStatus, sample, start, publish, Store.get?, Service.loadBalancer]
  have hhistory : sample.Follows SparesStatus strandedStatus :=
    ⟨⟨⟨⟨⟨⟨trivial, hput⟩, trivial⟩, trivial⟩, trivial⟩, trivial⟩, trivial⟩
  refine ⟨statuses_bound (.empty _ _ _) direct_sample hstart hhistory, ?_, ?_⟩
  · decide +kernel
  · decide +kernel

end Worker

end Balancer
