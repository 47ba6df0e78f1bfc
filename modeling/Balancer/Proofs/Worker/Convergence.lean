import Mathlib
import Balancer.Proofs.Worker.Status
import Balancer.Proofs.Worker.Undisturbed

/-!
# Synchronisation converges

Every run of its synchronisation brings an undisturbed service a step further, and nothing that
concerns other services takes it back. A service that may be managed is taken over, loses a status
that does not belong to its port, is bound to its port and has the address published, which takes
four runs at most. A service that may no longer be managed loses its status and is given up, in two
runs. From then on the runs change nothing.
-/

namespace Balancer

namespace Service

/-- Whether a service that is taken over may be managed depends on its kind alone. -/
theorem canManage_of_isManaged {service : Service} (hmark : service.isManaged = true) :
    service.canManage = decide (service.kind = .loadBalancer) := by
  have hvalue : service.annotation managedKey = some "true" := of_decide_eq_true hmark
  rw [canManage, hvalue]
  simp

/-- A service that may be managed may be so once it is taken over. -/
theorem canManage_markManaged {service : Service} (hkind : service.canManage = true) :
    service.markManaged.canManage = true := by
  rw [canManage_of_isManaged service.isManaged_markManaged]
  exact (Bool.and_eq_true_iff.mp hkind).1

/-- Recording a port leaves it to the kind whether the service may be managed. -/
theorem canManage_setBoundPort {service : Service} (hkind : service.canManage = true)
    (hmark : service.isManaged = true) (portId : String) :
    (service.setBoundPort portId).canManage = true := by
  rw [canManage_of_isManaged ((service.isManaged_setBoundPort portId).trans hmark)]
  exact (Bool.and_eq_true_iff.mp hkind).1

/-- A service is bound to the port that was recorded. -/
theorem boundPort_setBoundPort (service : Service) {portId : String} (hport : portId ≠ "") :
    (service.setBoundPort portId).boundPort = some portId := by
  simp [boundPort, annotation, setBoundPort, hport]

/-- The port that a service is bound to is the recorded one. -/
theorem annotation_of_boundPort {service : Service} {portId : String}
    (hbound : service.boundPort = some portId) :
    service.annotation boundPortKey = some portId := by
  exact (Option.filter_eq_some_iff.mp hbound).1

/-- A service without the mark is not taken over. -/
theorem isManaged_eq_false {service : Service} (hmark : service.annotation managedKey = none) :
    service.isManaged = false := by
  rw [isManaged, Annotations.isManaged]
  change decide (service.annotation managedKey = some "true") = false
  rw [hmark]
  rfl

/-- A service that is given up may not be managed. -/
theorem canManage_disown {service : Service} (hkind : service.canManage = false)
    (hmark : service.isManaged = true) : service.disown.canManage = false := by
  rw [canManage_of_isManaged hmark] at hkind
  rw [canManage]
  change (decide (service.kind = .loadBalancer) && _) = false
  rw [hkind, Bool.false_and]

/-- A service that is given up has neither annotation. -/
theorem annotation_disown (service : Service) :
    service.disown.annotation managedKey = none ∧
      service.disown.annotation boundPortKey = none := by
  simp [disown, annotation]

end Service

namespace Worker

/-- How many synchronisations a service that may be managed is at most away from being in place. -/
inductive Approach (worker : Worker) (service : Service) : Nat → Prop where
  | found (hkind : service.canManage = true) : Approach worker service 4
  | marked (hkind : service.canManage = true) (hmark : service.isManaged = true) :
      Approach worker service 3
  | cleared (hkind : service.canManage = true) (hmark : service.isManaged = true)
      (hstatus : service.hasIngress = false) : Approach worker service 2
  | bound (hkind : service.canManage = true) (hmark : service.isManaged = true) {portId : String}
      (hsettled : worker.allocator.Settled service.id service.transportPorts portId)
      (hbound : service.boundPort = some portId) : Approach worker service 1
  | published (hkind : service.canManage = true) (hmark : service.isManaged = true)
      {portId : String} {address : ExternalAddress}
      (hsettled : worker.allocator.Settled service.id service.transportPorts portId)
      (hbound : service.boundPort = some portId)
      (haddress : PortPool.external worker.pool portId = .ok address)
      (hstatus : service.ingress = [{ ip := address.ip, hostname := address.hostname }]) :
      Approach worker service 0

/-- How many synchronisations a managed service that may not be managed is at most away from being
given up. -/
inductive Retreat (worker : Worker) (service : Service) : Nat → Prop where
  | managed (hkind : service.canManage = false) (hmark : service.isManaged = true) :
      Retreat worker service 2
  | cleared (hkind : service.canManage = false) (hmark : service.isManaged = true)
      (hstatus : service.hasIngress = false) : Retreat worker service 1
  | released (hkind : service.canManage = false)
      (hmark : service.annotation managedKey = none)
      (hbound : service.annotation boundPortKey = none) (hstatus : service.ingress = [])
      (hunmapped : ¬worker.Mapped service.id) : Retreat worker service 0

variable {worker later : Worker} {service : Service} {remaining : Nat} {outcome : Outcome}

/-- What concerns other services does not take a service back on its approach. -/
theorem Approach.frame (h : worker.Approach service remaining)
    (hspares : worker.Spares service.id later) : later.Approach service remaining := by
  cases h with
  | found hkind => exact .found hkind
  | marked hkind hmark => exact .marked hkind hmark
  | cleared hkind hmark hstatus => exact .cleared hkind hmark hstatus
  | bound hkind hmark hsettled hbound =>
    exact .bound hkind hmark (hspares.settled _ _ hsettled) hbound
  | published hkind hmark hsettled hbound haddress hstatus =>
    exact .published hkind hmark (hspares.settled _ _ hsettled) hbound
      (hspares.external _ _ haddress) hstatus

/-- What concerns other services does not take a service back on its retreat. -/
theorem Retreat.frame (h : worker.Retreat service remaining)
    (hspares : worker.Spares service.id later) : later.Retreat service remaining := by
  cases h with
  | managed hkind hmark => exact .managed hkind hmark
  | cleared hkind hmark hstatus => exact .cleared hkind hmark hstatus
  | released hkind hmark hbound hstatus hunmapped =>
    exact .released hkind hmark hbound hstatus (hspares.unmapped hunmapped)

/-- A service on its approach may be managed. -/
theorem Approach.canManage (h : worker.Approach service remaining) : service.canManage = true := by
  cases h <;> assumption

/-- A service on its retreat may not be managed. -/
theorem Retreat.canManage (h : worker.Retreat service remaining) : service.canManage = false := by
  cases h <;> assumption

/-- A service that was bound to its port is settled there. -/
theorem Approach.exists_settled (h : worker.Approach service remaining) (hlast : remaining ≤ 1) :
    service.isManaged = true ∧
      ∃ portId, worker.allocator.Settled service.id service.transportPorts portId ∧
        service.boundPort = some portId := by
  cases h with
  | found => omega
  | marked => omega
  | cleared => omega
  | bound _ hmark hsettled hbound => exact ⟨hmark, _, hsettled, hbound⟩
  | published _ hmark hsettled hbound => exact ⟨hmark, _, hsettled, hbound⟩

/-- A settled service finds its port again, and nothing changes. -/
theorem Calm.map_eq (h : worker.Calm) {portId : String}
    (hsettled : worker.allocator.Settled service.id service.transportPorts portId) :
    worker.allocator.map worker.pool service.id service.transportPorts service.boundPort =
      (.ok (portId, worker.allocator), worker.pool) :=
  hsettled.map_eq h.accounted.allocation.sound.exact (h.present portId hsettled.tracked) _

/-- The port that is found for a settled service is the one that it is settled on. -/
theorem Calm.eq_of_maps (h : worker.Calm) {portId found : String} {mapped : Worker}
    (hsettled : worker.allocator.Settled service.id service.transportPorts portId)
    (hmaps : worker.Maps service found mapped) : found = portId ∧ mapped = worker :=
  Maps.unique ⟨worker.allocator, worker.pool, h.map_eq hsettled, rfl⟩ hmaps

/-- A service finds another port than the one it is bound to only while it is not settled there. -/
theorem Calm.two_le_of_maps (hcalm : worker.Calm) (h : worker.Approach service remaining)
    {portId : String} {mapped : Worker} (hmaps : worker.Maps service portId mapped)
    (hbound : service.boundPort ≠ some portId) : 2 ≤ remaining := by
  by_contra hlast
  obtain ⟨-, bound, hsettled, hkept⟩ := h.exists_settled (by omega)
  obtain ⟨rfl, -⟩ := hcalm.eq_of_maps hsettled hmaps
  exact hbound hkept

/-- A service that is not taken over is at the start of its approach. -/
theorem Approach.four_le (h : worker.Approach service remaining)
    (hmark : service.isManaged = false) : 4 ≤ remaining := by
  cases h with
  | found => exact le_rfl
  | _ => simp_all

/-- A service with a status but no settled port has the status to lose. -/
theorem Approach.three_le (h : worker.Approach service remaining)
    (hstatus : service.hasIngress = true) (htwo : 2 ≤ remaining) : 3 ≤ remaining := by
  cases h with
  | cleared _ _ hcleared =>
    rw [hstatus] at hcleared
    cases hcleared
  | _ => omega

/-- The stored object once an object was stored under the same identifier. -/
theorem get?_storing_self (base : Worker) {object : Service} (hobject : object.id = service.id)
    (events : List (ServiceId × ServiceEvent)) :
    (base.storing object events).cluster.store.get? service.id = some object := by
  rw [get?_storing, if_pos hobject.symm]

/-- A synchronisation that finds a port brings a service on its approach a step further. -/
theorem Approach.step (h : worker.Approach service remaining) (hcalm : worker.Calm)
    (hstored : worker.cluster.store.get? service.id = some service)
    (hadvances : worker.Advances service outcome)
    (hport : outcome.2 ≠ some (.allocator .noSuitablePort)) :
    ∃ next rest, outcome.1.cluster.store.get? service.id = some next ∧ rest ≤ remaining - 1 ∧
      outcome.1.Approach next rest := by
  cases hadvances with
  | ignored hkind | withdraw hkind | release hkind =>
    rw [h.canManage] at hkind
    cases hkind
  | takeOver hkind hmark events =>
    have hearly := h.four_le hmark
    refine ⟨service.markManaged.renewed, 3, worker.get?_storing_self rfl events, by omega, ?_⟩
    exact .marked (Service.canManage_markManaged hkind) service.isManaged_markManaged
  | stale hkind hmark hbound hstatus events =>
    have htwo : 2 ≤ remaining := by
      by_contra hlast
      obtain ⟨-, portId, -, hkept⟩ := h.exists_settled (by omega)
      rw [hbound] at hkept
      cases hkept
    have hearly := h.three_le hstatus htwo
    refine ⟨Service.renewed { service with ingress := [] }, 2,
      worker.get?_storing_self rfl events, by omega, ?_⟩
    exact .cleared hkind hmark rfl
  | full => exact (hport rfl).elim
  | @clearFirst hkind hmark portId mapped hmaps hbound hstatus events =>
    have hearly := h.three_le hstatus (hcalm.two_le_of_maps h hmaps hbound)
    refine ⟨Service.renewed { service with ingress := [] }, 2,
      mapped.get?_storing_self rfl events, by omega, ?_⟩
    exact .cleared hkind hmark rfl
  | @commit hkind hmark portId mapped hmaps hbound hstatus events =>
    have hearly := hcalm.two_le_of_maps h hmaps hbound
    have hname := (hmaps.offers hcalm).ne_empty (hmaps.calm hcalm).accounted.grounded.pool
    refine ⟨(service.setBoundPort portId).renewed, 1, mapped.get?_storing_self rfl events,
      by omega, ?_⟩
    exact .bound (Service.canManage_setBoundPort hkind hmark portId)
      ((service.isManaged_setBoundPort portId).trans hmark) (hmaps.present hcalm).1
      (service.boundPort_setBoundPort hname)
  | @publish hkind hmark portId mapped address hmaps hbound haddress hstatus events =>
    refine ⟨Service.renewed { service with ingress := statusFor address }, 0,
      mapped.get?_storing_self rfl events, Nat.zero_le _, ?_⟩
    exact .published hkind hmark (hmaps.present hcalm).1 hbound haddress rfl
  | @settled hkind hmark portId mapped address hmaps hbound haddress hstatus =>
    refine ⟨service, 0, (hmaps.get?_eq _).trans hstored, Nat.zero_le _, ?_⟩
    exact .published hkind hmark (hmaps.present hcalm).1 hbound haddress hstatus

/-- A synchronisation brings a service on its retreat a step further. -/
theorem Retreat.step (h : worker.Retreat service remaining)
    (hstored : worker.cluster.store.get? service.id = some service)
    (hadvances : worker.Advances service outcome) :
    ∃ next rest, outcome.1.cluster.store.get? service.id = some next ∧ rest ≤ remaining - 1 ∧
      outcome.1.Retreat next rest := by
  cases hadvances with
  | ignored hkind hmark =>
    cases h with
    | managed _ hmanaged | cleared _ hmanaged =>
      rw [hmark] at hmanaged
      cases hmanaged
    | released hkind hmark hbound hstatus hunmapped =>
      exact ⟨service, 0, hstored, le_rfl, .released hkind hmark hbound hstatus hunmapped⟩
  | withdraw hkind hmark hstatus events =>
    have hearly : 2 ≤ remaining := by
      cases h with
      | managed => exact le_rfl
      | cleared _ _ hcleared =>
        rw [hstatus] at hcleared
        cases hcleared
      | released _ hunmarked =>
        rw [Service.isManaged_eq_false hunmarked] at hmark
        cases hmark
    refine ⟨Service.renewed { service with ingress := [] }, 1,
      worker.get?_storing_self rfl events, by omega, ?_⟩
    refine .cleared ?_ hmark rfl
    exact hkind
  | release hkind hmark hstatus events =>
    obtain ⟨hmanaged, hbound⟩ := service.annotation_disown
    refine ⟨service.disown.renewed, 0, get?_storing_self _ rfl events, Nat.zero_le _, ?_⟩
    refine .released ?_ hmanaged hbound (Service.ingress_eq_nil hstatus) ?_
    · exact Service.canManage_disown hkind hmark
    · intro hmapped
      exact ((Allocator.mem_records_unmap _ _ _).mp hmapped).1 rfl
  | takeOver hkind | stale hkind | full hkind | clearFirst hkind | commit hkind | publish hkind
  | settled hkind =>
    rw [h.canManage] at hkind
    cases hkind

section Countdown

variable (stage : Worker → Service → Nat → Prop)
  (hframe : ∀ {worker later : Worker} {service : Service} {remaining : Nat},
    stage worker service remaining → worker.Spares service.id later →
      stage later service remaining)
  (hstep : ∀ {worker : Worker} {service : Service} {remaining : Nat} {outcome : Outcome},
    stage worker service remaining → worker.Calm →
      worker.cluster.store.get? service.id = some service → worker.Advances service outcome →
        outcome.2 ≠ some (.allocator .noSuitablePort) →
          ∃ next rest, outcome.1.cluster.store.get? service.id = some next ∧
            rest ≤ remaining - 1 ∧ stage outcome.1 next rest)
include hframe hstep

/-- What a synchronisation brings a step further, and other happenings do not take back, is reached
in as many synchronisations as there are steps. -/
theorem Follows.countdown {start : Worker} {id : ServiceId} {history : List Happening}
    (hhistory : start.Follows (Undisturbed id) history) (hcalm : start.Calm)
    (hstored : start.cluster.store.get? id = some service)
    (hstage : stage start service remaining) :
    (start.through history).Calm ∧ ∃ next rest,
      (start.through history).cluster.store.get? id = some next ∧
        rest ≤ remaining - start.runs (.syncService id) history ∧
          stage (start.through history) next rest := by
  induction history with
  | nil => exact ⟨hcalm, service, remaining, hstored, le_rfl, hstage⟩
  | cons happening earlier ih =>
    obtain ⟨hbefore, next, rest, hnext, hrest, hreached⟩ := ih hhistory.1
    cases hbefore.accounted.cluster.keyed id next hnext
    obtain ⟨hafter, hspares⟩ := hbefore.after hhistory.2
    refine ⟨hafter, ?_⟩
    -- Only a run of the synchronisation counts, and nothing else moves the service.
    by_cases hsync : ∃ base, (start.through earlier).handed happening =
        some (base, .syncService next.id)
    · obtain ⟨base, hhanded⟩ := hsync
      have hport := hhistory.2.1 base _ hhanded rfl
      have hruns := runs_of_handed hhanded
      obtain ⟨⟨jobs, rfl⟩, hsettles⟩ := settles_handed hhanded
      have hbase : ((start.through earlier).withJobs jobs).Calm := hbefore.of_eq rfl rfl rfl
      have hadvances := hbase.syncService_advances hnext
      have hreached' : stage ((start.through earlier).withJobs jobs) next rest :=
        hframe hreached (spares_of_eq _ next.id rfl rfl rfl)
      obtain ⟨last, rest', hlast, hle, hstage'⟩ := hstep hreached' hbase hnext hadvances hport
      have hid := (hadvances.calm hbase).accounted.cluster.keyed next.id last hlast
      have hsettled (id : ServiceId) :=
        spares_of_eq _ id hsettles.allocator hsettles.cluster hsettles.pool
      refine ⟨last, rest', (hsettled next.id).stored.trans hlast, by omega, ?_⟩
      exact hframe hstage' (hsettled last.id)
    · have hother := not_exists.mp hsync
      have hkept := hspares hother
      rw [runs_of_not_handed hother]
      exact ⟨next, rest, hkept.stored.trans hnext, hrest, hframe hreached hkept⟩

end Countdown

/-- A service that is in place: it is taken over and bound to the port that it is mapped to, and its
status is the one entry with the address of the port. -/
structure InPlace (worker : Worker) (id : ServiceId) (service : Service) (portId : String)
    (address : ExternalAddress) : Prop where
  stored : worker.cluster.store.get? id = some service
  managed : service.annotation managedKey = some "true"
  bound : service.annotation boundPortKey = some portId
  mapped : worker.allocator.portOf id = .ok portId
  addressed : PortPool.external worker.pool portId = .ok address
  published : service.ingress = [{ ip := address.ip, hostname := address.hostname }]

/-- A service that is given up: it has no status and neither annotation, and it is not mapped and
holds no number of any port. -/
structure GivenUp (worker : Worker) (id : ServiceId) (service : Service) : Prop where
  stored : worker.cluster.store.get? id = some service
  unmanaged : service.annotation managedKey = none
  unbound : service.annotation boundPortKey = none
  withdrawn : service.ingress = []
  unmapped : ¬worker.Mapped id
  free : ∀ portId number, ¬worker.allocator.Holds portId number id

/-- A service that is not mapped holds no number. -/
theorem Accounted.free_of_not_mapped (h : worker.Accounted) {id : ServiceId}
    (hunmapped : ¬worker.Mapped id) (portId : String) (number : UInt16) :
    ¬worker.allocator.Holds portId number id := by
  intro hholds
  obtain ⟨record, hrecord, -⟩ := (h.allocation.sound.exact portId number id).mp hholds
  exact hunmapped (mapped_of_record hrecord)

/-- At the end of its approach a service is in place, and another synchronisation asks for a push
and does nothing else. -/
theorem Approach.inPlace (h : worker.Approach service 0) (hcalm : worker.Calm)
    (hstored : worker.cluster.store.get? service.id = some service) :
    (∃ portId address, worker.InPlace service.id service portId address) ∧
      worker.run (.syncService service.id) = (worker.enqueue .pushConfig, none) := by
  cases h with
  | @published hkind hmark portId address hsettled hbound haddress hstatus =>
    have hmapped : worker.allocator.portOf service.id = .ok portId := by
      rw [Allocator.portOf, hsettled.record]
    constructor
    · exact ⟨portId, address, hstored, of_decide_eq_true hmark,
        Service.annotation_of_boundPort hbound, hmapped, haddress, hstatus⟩
    · -- The address is published already, so that the synchronisation does nothing else.
      have hmaps : worker.Maps service portId worker :=
        ⟨worker.allocator, worker.pool, hcalm.map_eq hsettled, rfl⟩
      have hadvances := hcalm.syncService_advances hstored
      obtain ⟨again, hagain, hcases⟩ := hadvances.refreshes hkind hmark hmaps hbound
      cases haddress.symm.trans hagain
      rcases hcases with ⟨-, heq⟩ | ⟨hstatus', -⟩
      · exact heq
      · exact absurd hstatus hstatus'

/-- At the end of its retreat a service is given up, and another synchronisation does nothing. -/
theorem Retreat.givenUp (h : worker.Retreat service 0) (hcalm : worker.Calm)
    (hstored : worker.cluster.store.get? service.id = some service) :
    worker.GivenUp service.id service ∧ worker.run (.syncService service.id) = (worker, none) := by
  cases h with
  | released hkind hmark hbound hstatus hunmapped =>
    constructor
    · exact ⟨hstored, hmark, hbound, hstatus, hunmapped,
        hcalm.accounted.free_of_not_mapped hunmapped⟩
    · change worker.syncService service.id = _
      have hadvances := hcalm.syncService_advances hstored
      generalize worker.syncService service.id = outcome at hadvances ⊢
      cases hadvances with
      | ignored => rfl
      | withdraw _ hmark' | release _ hmark' =>
        rw [Service.isManaged_eq_false hmark] at hmark'
        cases hmark'
      | takeOver hkind' | stale hkind' | full hkind' | clearFirst hkind' | commit hkind'
      | publish hkind' | settled hkind' =>
        rw [hkind] at hkind'
        cases hkind'

/-- Synchronisation converges. While nothing fails and a stored service is undisturbed, four runs
bring it in place if it may be managed, and two runs give it up if it is managed but may not be, in
whatever state they find it. Every further run leaves the cluster and the allocator alone. -/
theorem synchronisation_converges {start : Worker} (hcalm : start.Calm) {id : ServiceId}
    (hstored : start.cluster.store.get? id = some service) {history : List Happening}
    (hhistory : start.Follows (Undisturbed id) history) :
    (service.canManage = true → 4 ≤ start.runs (.syncService id) history →
      (∃ last portId address, (start.through history).InPlace id last portId address) ∧
        (start.through history).run (.syncService id) =
          ((start.through history).enqueue .pushConfig, none)) ∧
    (service.canManage = false → service.isManaged = true →
      2 ≤ start.runs (.syncService id) history →
        (∃ last, (start.through history).GivenUp id last) ∧
          (start.through history).run (.syncService id) = (start.through history, none)) := by
  constructor
  · intro hkind hruns
    obtain ⟨hlast, last, rest, hget, hrest, hreached⟩ :=
      hhistory.countdown Approach Approach.frame Approach.step hcalm hstored (.found hkind)
    cases hlast.accounted.cluster.keyed id last hget
    obtain rfl : rest = 0 := by omega
    obtain ⟨⟨portId, address, hplace⟩, hrun⟩ := hreached.inPlace hlast hget
    exact ⟨⟨last, portId, address, hplace⟩, hrun⟩
  · intro hkind hmark hruns
    obtain ⟨hlast, last, rest, hget, hrest, hreached⟩ :=
      hhistory.countdown Retreat Retreat.frame
        (fun h _ hstored hadvances _ => h.step hstored hadvances) hcalm hstored
        (.managed hkind hmark)
    cases hlast.accounted.cluster.keyed id last hget
    obtain rfl : rest = 0 := by omega
    obtain ⟨hgone, hrun⟩ := hreached.givenUp hlast hget
    exact ⟨⟨last, hgone⟩, hrun⟩

/-- The sample worker once a service was put. -/
def holding (service : Service) : Worker :=
  sample.after (.put service)

/-- Nothing fails around the sample worker. -/
theorem calm_holding (service : Service) : (holding service).Calm := by
  refine ⟨accounted_sample.after (.put service), rfl, rfl, rfl, fun portId hport => ?_⟩
  exact absurd hport Std.ExtTreeMap.not_mem_empty

/-- The service that was put is stored. -/
theorem get?_holding (service : Service) :
    (holding service).cluster.store.get? service.id = some { service with version := 1 } := by
  rw [holding, get?_after_put, if_pos rfl]
  simp [sample, start, publish, Store.versionOf, Store.get?]

/-- A service of a kind with annotations and a status that do not fit any port. -/
def astray (kind : ServiceKind) (annotations : Annotations) : Service where
  id := ⟨"ns", "web"⟩
  kind := kind
  annotations := annotations.insert boundPortKey "port-9"
  ports := [{ protocol := .tcp, port := 80 }]
  ingress := [{ ip := "192.0.2.7" }]

/-- A load balancer that was not taken over yet. -/
def arriving : Service :=
  astray .loadBalancer ∅

/-- A service that was taken over and is no longer a load balancer. -/
def leaving : Service :=
  astray .clusterIp ((∅ : Annotations).insert managedKey "true")

/-- Four synchronisations of the service between jobs of another one and a push. -/
def interleaved : List Happening :=
  [.execute (.syncService ⟨"ns", "web"⟩), .execute .pushConfig,
    .execute (.syncService ⟨"ns", "web"⟩), .execute (.removeService ⟨"ns", "dns"⟩ ∅),
    .execute (.syncService ⟨"ns", "web"⟩), .execute (.syncService ⟨"ns", "dns"⟩),
    .put (.loadBalancer ⟨"ns", "dns"⟩ []), .execute (.syncService ⟨"ns", "web"⟩)]

/-- The load balancer is undisturbed. -/
theorem follows_interleaved :
    (holding arriving).Follows (Undisturbed ⟨"ns", "web"⟩) interleaved := by
  have hsync {worker : Worker}
      (hport : (worker.run (.syncService ⟨"ns", "web"⟩)).2 ≠ some (.allocator .noSuitablePort)) :
      worker.Undisturbed ⟨"ns", "web"⟩ (.execute (.syncService ⟨"ns", "web"⟩)) :=
    undisturbed_execute fun _ => hport
  have hother : (⟨"ns", "dns"⟩ : ServiceId) ≠ ⟨"ns", "web"⟩ := by decide
  refine ⟨⟨⟨⟨⟨⟨⟨⟨trivial, hsync ?_⟩, ?_⟩, ?_⟩, hsync ?_⟩, ?_⟩, hsync ?_⟩, ?_⟩, hsync ?_⟩
  · decide +kernel
  · exact ⟨fun _ _ hhanded => absurd hhanded (Option.some_ne_none _).symm, hother⟩
  · exact undisturbed_execute fun hsame => absurd hsame hother
  · decide +kernel
  · exact undisturbed_execute hother
  · decide +kernel
  · exact undisturbed_execute trivial
  · decide +kernel

/-- The service that was taken over is undisturbed while it is synchronised twice. -/
theorem follows_leaving :
    (holding leaving).Follows (Undisturbed ⟨"ns", "web"⟩)
      [.execute (.syncService ⟨"ns", "web"⟩), .execute (.syncService ⟨"ns", "web"⟩)] := by
  refine ⟨⟨trivial, undisturbed_execute fun _ => ?_⟩, undisturbed_execute fun _ => ?_⟩
  · decide +kernel
  · decide +kernel

/-- The load balancer is in place after four runs, where it shows the address of the first port, and
was not after three. The other service is given up after two. -/
theorem synchronisation_converges_interleaved :
    (∃ last, ((holding arriving).through interleaved).InPlace ⟨"ns", "web"⟩ last "port-1"
        { ip := "203.0.113.1" } ∧ last.ingress = [{ ip := "203.0.113.1", hostname := "" }]) ∧
      (((holding arriving).through interleaved.tail).cluster.store.get? ⟨"ns", "web"⟩).map
        Service.ingress = some [] ∧
      ∃ last, ((holding leaving).through
        [.execute (.syncService ⟨"ns", "web"⟩), .execute (.syncService ⟨"ns", "web"⟩)]).GivenUp
          ⟨"ns", "web"⟩ last := by
  refine ⟨?_, by decide +kernel, ?_⟩
  · have hconverges := synchronisation_converges (calm_holding arriving) (get?_holding arriving)
      follows_interleaved
    obtain ⟨last, portId, address, hplace⟩ :=
      (hconverges.1 (by decide +kernel) (by decide +kernel)).1
    have hport : ((holding arriving).through interleaved).allocator.portOf ⟨"ns", "web"⟩ =
        .ok "port-1" := by decide +kernel
    obtain rfl : portId = "port-1" := Except.ok.inj (hplace.mapped.symm.trans hport)
    have haddress : PortPool.external ((holding arriving).through interleaved).pool "port-1" =
        .ok { ip := "203.0.113.1" } := by decide +kernel
    obtain rfl : address = { ip := "203.0.113.1" } :=
      Except.ok.inj (hplace.addressed.symm.trans haddress)
    exact ⟨last, hplace, hplace.published⟩
  · have hconverges := synchronisation_converges (calm_holding leaving) (get?_holding leaving)
      follows_leaving
    exact (hconverges.2 (by decide +kernel) (by decide +kernel) (by decide +kernel)).1

end Worker

end Balancer
