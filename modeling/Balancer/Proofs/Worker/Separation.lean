import Mathlib
import Balancer.Proofs.Forwarding.Entries
import Balancer.Proofs.Pool.Addresses
import Balancer.Proofs.Worker.Bookkeeping

/-!
# Services that share an address

Several services may be bound to one port, and the forwarding model then forwards the numbers of all
of them from one address. The allocator keeps these numbers apart, but it knows the ports that a
service declared when it was mapped last, while the model forwards those that it declares now. So
two services collide on an address only if one of them has declared a number since that it was not
mapped for. Different ports never share an address.
-/

namespace Balancer

/-- The records of two services on one port do not list the same number. -/
theorem Allocator.Exact.lists_unique {allocator : Allocator} (hexact : allocator.Exact)
    {portId : String} {number : UInt16} {first second : ServiceId}
    (hfirst : allocator.Lists portId number first)
    (hsecond : allocator.Lists portId number second) : first = second := by
  have hholds := (hexact portId number first).mpr hfirst
  have hholds' := (hexact portId number second).mpr hsecond
  rw [holds_iff] at hholds hholds'
  exact Option.some.inj (hholds.symm.trans hholds')

namespace Worker

/-- The forwards of the services that are bound to a port, each with the service that it stems
from. -/
def forwardsOn (worker : Worker) (portId : String) : List (ServiceId × PortForward) :=
  forwardsOf worker.cluster.store.get? (sortedDistinct worker.cluster.store.nodes)
    (Assignment.servicesOn worker.allocator.assignment portId)

/-- An entry of the model stands for a port: it has the internal address of the port and forwards
for the services that are bound to the port. -/
structure EntryOf (worker : Worker) (portId : String) (entry : IngressAddress) : Prop where
  address : PortPool.internal worker.pool portId = .ok entry.address
  forwards : entry.forwards.Perm ((worker.forwardsOn portId).map Prod.snd)

variable {worker : Worker} {model : ForwardingModel}

/-- A model that is generated has one entry for each assigned port. -/
theorem entries_of_generate (hcluster : worker.cluster.Direct)
    (hmodel : worker.modelSource.generate worker.allocator.assignment = .ok model) :
    List.Forall₂ worker.EntryOf (Assignment.ports worker.allocator.assignment) model.ingress := by
  unfold ModelSource.generate at hmodel
  split at hmodel
  · cases hmodel
  · next nodes hnodes =>
    obtain ⟨entries, hentries, rfl⟩ := map_eq_ok hmodel
    have hreads : worker.cluster.readsFailing = false := by
      cases hreads : worker.cluster.readsFailing with
      | false => rfl
      | true => simp [modelSource, Cluster.nodes, hreads] at hnodes
    have hnodes' : worker.cluster.store.nodes = nodes := by
      simpa [modelSource, Cluster.nodes, hreads] using hnodes
    have hservice (id : ServiceId) :
        worker.modelSource.service id = .ok (worker.cluster.store.get? id) := by
      simp [modelSource, hcluster.service_eq, hreads]
    apply (ModelSource.entries_eq_ok_iff.mp hentries).imp
    intro portId entry hentry
    obtain ⟨haddress, forwards, hforwards, hperm⟩ := ModelSource.entry_eq_ok hentry
    rw [ModelSource.forwards_eq_ok fun id _ => hservice id] at hforwards
    cases hforwards
    rw [← hnodes'] at hperm
    exact ⟨haddress, hperm⟩

/-- Every entry stands for a port. -/
theorem exists_entryOf {portIds : List String} {entries : List IngressAddress}
    (h : List.Forall₂ worker.EntryOf portIds entries) {entry : IngressAddress}
    (hentry : entry ∈ entries) : ∃ portId, worker.EntryOf portId entry := by
  exact exists_of_forall₂ h.flip hentry

/-- Entries that stand for different ports have different addresses. -/
theorem nodup_addresses (hworker : worker.Accounted)
    (hentries : List.Forall₂ worker.EntryOf (Assignment.ports worker.allocator.assignment)
      model.ingress) : (model.ingress.map IngressAddress.address).Nodup := by
  have hunique : Relator.BiUnique fun portId address =>
      PortPool.internal worker.pool portId = .ok address := by
    constructor
    · intro first address second hfirst hsecond
      exact hworker.allocation.pool.internal_injective hfirst hsecond
    · intro portId first second hfirst hsecond
      exact Except.ok.inj (hfirst.symm.trans hsecond)
  have haddresses : List.Forall₂ (fun portId address =>
      PortPool.internal worker.pool portId = .ok address)
      (Assignment.ports worker.allocator.assignment)
      (model.ingress.map IngressAddress.address) :=
    List.forall₂_map_right_iff.mpr (hentries.imp fun _ _ hentry => hentry.address)
  exact (List.rel_nodup hunique haddresses).mp (nodup_sortedDistinct _)

/-- Services do not collide on an address: the entries of a model that is pushed have different
addresses, each stands for one port, and two forwards of it with the same number stem from the same
service, unless one of the services was not mapped for that number. -/
theorem forwards_apart {start : Worker} (hstart : start.Accounted) {history : List Happening}
    {model : ForwardingModel}
    (hmodel : (start.through history).modelSource.generate
      (start.through history).allocator.assignment = .ok model) :
    (model.ingress.map IngressAddress.address).Nodup ∧
      ∀ entry ∈ model.ingress, ∃ portId, (start.through history).EntryOf portId entry ∧
        ∀ first ∈ (start.through history).forwardsOn portId,
          ∀ second ∈ (start.through history).forwardsOn portId,
            first.2.inboundPort = second.2.inboundPort → first.1 = second.1 ∨
              ¬(start.through history).allocator.Lists portId first.2.inboundPort first.1 ∨
              ¬(start.through history).allocator.Lists portId second.2.inboundPort second.1 := by
  have hworker := hstart.through history
  have hentries := entries_of_generate hworker.cluster hmodel
  refine ⟨nodup_addresses hworker hentries, ?_⟩
  intro entry hentry
  obtain ⟨portId, hentryOf⟩ := exists_entryOf hentries hentry
  refine ⟨portId, hentryOf, fun first hfirst second hsecond hnumber => ?_⟩
  by_cases hlists : (start.through history).allocator.Lists portId first.2.inboundPort first.1
  · by_cases hlists' :
        (start.through history).allocator.Lists portId second.2.inboundPort second.1
    · left
      rw [← hnumber] at hlists'
      exact hworker.allocation.sound.exact.lists_unique hlists hlists'
    · exact Or.inr (Or.inr hlists')
  · exact Or.inr (Or.inl hlists)

/-- A service with number 80 and one with number 443 are put and mapped. -/
def gathered : List Happening :=
  [.turn, .turn, .turn, .turn,
    .put (.loadBalancer ⟨"ns", "api"⟩ [{ protocol := .tcp, port := 443, nodePort := some 30443 }]),
    .put (.loadBalancer ⟨"ns", "web"⟩ [{ protocol := .tcp, port := 80, nodePort := some 30080 }])]

/-- Both services are forwarded from one address, and the model has no other entry with it. -/
theorem forwards_apart_gathered :
    (sample.through gathered).forwardsOn "port-1" =
        [(⟨"ns", "api"⟩,
            { protocol := .tcp, inboundPort := 443, destinations := [], destinationPort := 30443 }),
          (⟨"ns", "web"⟩,
            { protocol := .tcp, inboundPort := 80, destinations := [], destinationPort := 30080 })] ∧
      ∃ model, (sample.through gathered).modelSource.generate
          (sample.through gathered).allocator.assignment = .ok model ∧
        model.ingress.map IngressAddress.address = ["10.0.0.1"] ∧
        (model.ingress.map IngressAddress.address).Nodup := by
  have hgenerated : ((sample.through gathered).modelSource.generate
      (sample.through gathered).allocator.assignment).map
        (fun model => model.ingress.map IngressAddress.address) = .ok ["10.0.0.1"] := by
    decide +kernel
  obtain ⟨model, hmodel, haddresses⟩ := map_eq_ok hgenerated
  refine ⟨by decide +kernel, model, hmodel, haddresses, ?_⟩
  exact (forwards_apart accounted_sample hmodel).1

/-- The second service as it is stored then, with its number changed to 80 by its user. -/
def renumbered : Service :=
  { Service.loadBalancer ⟨"ns", "api"⟩
      [{ protocol := .tcp, port := 80, nodePort := some 30443 }] with
    annotations := ((∅ : Annotations).insert managedKey "true").insert boundPortKey "port-1" }

/-- So services may collide: until it is synchronised, the second service is forwarded on the number
that the first one has on the same address. -/
theorem exists_collision :
    ¬∀ (start : Worker) (history : List Happening) (model : ForwardingModel), start.Accounted →
      (start.through history).modelSource.generate (start.through history).allocator.assignment =
        .ok model →
        (model.ingress.map IngressAddress.address).Nodup ∧
          ∀ entry ∈ model.ingress, ∃ portId, (start.through history).EntryOf portId entry ∧
            ∀ first ∈ (start.through history).forwardsOn portId,
              ∀ second ∈ (start.through history).forwardsOn portId,
                first.2.inboundPort = second.2.inboundPort → first.1 = second.1 := by
  intro hall
  have hgenerated : ((sample.through (.put renumbered :: gathered)).modelSource.generate
      (sample.through (.put renumbered :: gathered)).allocator.assignment).map
        (fun model => model.ingress.map IngressAddress.address) = .ok ["10.0.0.1"] := by
    decide +kernel
  obtain ⟨model, hmodel, haddresses⟩ := map_eq_ok hgenerated
  obtain ⟨entry, hingress, haddress⟩ := List.map_eq_singleton_iff.mp haddresses
  have hmem : entry ∈ model.ingress := by
    rw [hingress]
    exact List.mem_singleton_self entry
  obtain ⟨portId, hentry, hsame⟩ := (hall sample _ _ accounted_sample hmodel).2 entry hmem
  have hport : portId = "port-1" := by
    have hpool := (accounted_sample.through (.put renumbered :: gathered)).allocation.pool
    refine hpool.internal_injective hentry.address ?_
    rw [haddress]
    decide +kernel
  subst hport
  have hweb : (⟨"ns", "web"⟩,
      { protocol := .tcp, inboundPort := 80, destinations := [], destinationPort := 30080 }) ∈
        (sample.through (.put renumbered :: gathered)).forwardsOn "port-1" := by
    decide +kernel
  have hapi : (⟨"ns", "api"⟩,
      { protocol := .tcp, inboundPort := 80, destinations := [], destinationPort := 30443 }) ∈
        (sample.through (.put renumbered :: gathered)).forwardsOn "port-1" := by
    decide +kernel
  exact absurd (hsame _ hweb _ hapi rfl) (by decide)

end Worker

end Balancer
