import Mathlib
import Balancer.Proofs.Allocator.History
import Balancer.Proofs.Allocator.Stickiness

/-!
# Services that stay through churn

Other services come and go and move between the ports, the allocator forgets unused ports and tracks
them again, and the pool makes and deletes ports. A service that has a record on a port of the pool
keeps its record through all this, as long as nobody takes the service or its port away. When it is
mapped again with the ports of its record it gets the same port, and nothing changes besides.

The port has to be there. The search for a tracked port does not ask the pool whether it still has
it, so a service may have a record on a port that was gone before, and then it moves at the next
mapping.
-/

namespace Balancer

namespace Allocation

/-- The state after a history of calls, which lists the latest first. -/
def through (start : Allocation) : List AllocatorCall → Allocation
  | [] => start
  | call :: earlier => (start.through earlier).after call

/-- Whether a call leaves a service and its port alone: it concerns another service, it keeps the
port among those on offer, and the pool does not lose it. -/
def Spares (allocation : Allocation) (id : ServiceId) (portId : String) : AllocatorCall → Prop
  | .map other _ _ => other ≠ id
  | .unmap other => other ≠ id
  | .prune => True
  | .setAvailable portIds => portId ∈ portIds
  | .track _ => True
  | .changePool change =>
    portId ∈ allocation.pool.ports → portId ∈ (allocation.pool.change change).ports

instance (allocation : Allocation) (id : ServiceId) (portId : String) (call : AllocatorCall) :
    Decidable (allocation.Spares id portId call) :=
  match call with
  | .map other _ _ => inferInstanceAs (Decidable (other ≠ id))
  | .unmap other => inferInstanceAs (Decidable (other ≠ id))
  | .prune | .track _ => .isTrue trivial
  | .setAvailable portIds => inferInstanceAs (Decidable (portId ∈ portIds))
  | .changePool change => inferInstanceAs
      (Decidable (portId ∈ allocation.pool.ports → portId ∈ (allocation.pool.change change).ports))

/-- Every call of a history was permitted when it was made, and left a service and its port
alone. -/
def Spared (start : Allocation) (id : ServiceId) (portId : String) : List AllocatorCall → Prop
  | [] => True
  | call :: earlier => start.Spared id portId earlier ∧ (start.through earlier).Permits call ∧
      (start.through earlier).Spares id portId call

/-- A service has a record on a port that the pool has. -/
structure Housed (allocation : Allocation) (id : ServiceId) (ports : List TransportPort)
    (portId : String) : Prop where
  record : allocation.allocator.records[id]? = some { portId, ports }
  present : portId ∈ allocation.pool.ports

variable {allocation start : Allocation} {id : ServiceId} {ports : List TransportPort}
  {portId : String}

/-- A call that leaves a service and its port alone leaves the service its record and the pool the
port. -/
theorem Housed.after (h : allocation.Housed id ports portId)
    (hexact : allocation.allocator.Exact) {call : AllocatorCall}
    (hspares : allocation.Spares id portId call) :
    (allocation.after call).Housed id ports portId := by
  obtain ⟨hrecord, hpresent⟩ := h
  cases call with
  | map other ports' preferred =>
    have hother : id ≠ other := Ne.symm hspares
    constructor
    · rcases allocation.allocator.map_cases allocation.pool other ports' preferred with
        ⟨found, prepared, rest, hplaced, heq⟩ | ⟨error, rest, -, heq⟩
      · simp only [Allocation.after, heq]
        rw [Allocator.records_bind, if_neg hother, hplaced.records_eq, hrecord]
      · simp only [Allocation.after, heq]
        exact hrecord
    · rw [pool_after_map]
      rcases allocation.allocator.pool_map allocation.pool other ports' preferred with heq | heq
      · rwa [heq]
      · rw [heq]
        exact Pool.mem_ports_provision hpresent
  | unmap other =>
    have hother : id ≠ other := Ne.symm hspares
    refine ⟨?_, hpresent⟩
    simp only [Allocation.after]
    rw [Allocator.records_unmap, if_neg hother, hrecord]
  | prune => exact ⟨hrecord, hpresent⟩
  | setAvailable portIds =>
    refine ⟨?_, hpresent⟩
    have hkept := hexact.not_mem_strandedBy hrecord (hspares : portId ∈ portIds)
    simp only [Allocation.after]
    rw [Allocator.records_setAvailable, if_neg hkept, hrecord]
  | track portIds =>
    refine ⟨?_, hpresent⟩
    simp only [Allocation.after]
    rw [Allocator.records_track, hrecord]
  | changePool change => exact ⟨hrecord, hspares hpresent⟩

/-- A history of calls that leave a service and its port alone leads on to a state that calls lead
to, in which the service still has its record and the pool the port. -/
theorem Housed.through (h : start.Housed id ports portId) (hstart : start.Reachable)
    {calls : List AllocatorCall} (hcalls : start.Spared id portId calls) :
    (start.through calls).Reachable ∧ (start.through calls).Housed id ports portId := by
  induction calls with
  | nil => exact ⟨hstart, h⟩
  | cons call earlier ih =>
    obtain ⟨hearlier, hpermits, hspares⟩ := hcalls
    obtain ⟨hreachable, hhoused⟩ := ih hearlier
    exact ⟨.call call hreachable hpermits, hhoused.after hreachable.sound.exact hspares⟩

/-- A mapped service is sticky. Whatever calls are made that leave the service and its port alone,
as long as the pool has the port at first and can be reached at last, mapping the service again with
the ports of its record answers the same port, whatever port it prefers. It changes no record, no
allocation and nothing in the pool, and at most the port is tracked again. Mapping it once more
changes nothing at all. -/
theorem mapped_service_stays (hstart : start.Reachable)
    (hrecord : start.allocator.records[id]? = some { portId, ports })
    (hpresent : portId ∈ start.pool.ports) {calls : List AllocatorCall}
    (hcalls : start.Spared id portId calls) (honline : (start.through calls).pool.Online)
    (preferred : Option String) :
    ∃ mapped : Allocator,
      (start.through calls).allocator.map (start.through calls).pool id ports preferred =
        (.ok (portId, mapped), (start.through calls).pool) ∧
      mapped.records = (start.through calls).allocator.records ∧
      (∀ other, mapped.occupancy other = (start.through calls).allocator.occupancy other) ∧
      (∀ other, other ∈ mapped.tracked ↔
        other = portId ∨ other ∈ (start.through calls).allocator.tracked) ∧
      ∀ again, mapped.map (start.through calls).pool id ports again =
        (.ok (portId, mapped), (start.through calls).pool) := by
  have hhoused : start.Housed id ports portId := ⟨hrecord, hpresent⟩
  obtain ⟨hreachable, hrecord', hpresent'⟩ := hhoused.through hstart hcalls
  have hexact := hreachable.sound.exact
  have hoffers := honline.offers_iff.mpr hpresent'
  refine ⟨_, hexact.map_eq_recorded hrecord' hoffers preferred, rfl,
    Allocator.occupancy_trackOne _ portId, Allocator.mem_tracked_trackOne _ portId, fun again => ?_⟩
  have hsettled : ((start.through calls).allocator.trackOne portId).Settled id ports portId :=
    ⟨hrecord', (Allocator.mem_tracked_trackOne _ _ _).mpr (Or.inl rfl)⟩
  exact hsettled.map_eq (hexact.track [portId]) hoffers again

/-- A service with two port numbers is mapped to the first port of a pool. -/
def resting : Allocation :=
  after { pool := .sample } (.map ⟨"ns", "home"⟩ [⟨.tcp, 443⟩, ⟨.udp, 443⟩, ⟨.tcp, 22⟩] none)

/-- Two neighbours ask for ports. One of them asks for a number of the service and has to go to a
second port. The other one comes to the first port, asks for a number of the service as well and has
to move on to a third one, and then both go. The second and the third port are not on offer any
more, and the allocator and the pool forget them. -/
def bustle : List AllocatorCall :=
  [.changePool (.clean ["port-1"]), .prune, .setAvailable ["port-1"],
    .unmap ⟨"ns", "web"⟩, .unmap ⟨"ns", "dns"⟩,
    .map ⟨"ns", "dns"⟩ [⟨.udp, 443⟩, ⟨.udp, 53⟩] (some "port-1"),
    .map ⟨"ns", "web"⟩ [⟨.tcp, 443⟩] none, .map ⟨"ns", "dns"⟩ [⟨.udp, 53⟩] none]

/-- The service gets its port again although it prefers another one, and it still holds its port
numbers, which no neighbour got there. -/
theorem mapped_service_stays_resting :
    resting.Spared ⟨"ns", "home"⟩ "port-1" bustle ∧
      (resting.through (bustle.drop 5)).allocator.portOf ⟨"ns", "dns"⟩ = .ok "port-3" ∧
      ∃ mapped : Allocator,
        (resting.through bustle).allocator.map (resting.through bustle).pool ⟨"ns", "home"⟩
            [⟨.tcp, 443⟩, ⟨.udp, 443⟩, ⟨.tcp, 22⟩] (some "port-2") =
          (.ok ("port-1", mapped), (resting.through bustle).pool) ∧
        mapped.Holds "port-1" 443 ⟨"ns", "home"⟩ ∧ mapped.Holds "port-1" 22 ⟨"ns", "home"⟩ := by
  have hreachable : resting.Reachable := .call _ (.start (.empty _ _ _)) trivial
  have hrecord : resting.allocator.records[(⟨"ns", "home"⟩ : ServiceId)]? =
      some { portId := "port-1", ports := [⟨.tcp, 443⟩, ⟨.udp, 443⟩, ⟨.tcp, 22⟩] } := by
    decide +kernel
  have hspared : resting.Spared ⟨"ns", "home"⟩ "port-1" bustle := by
    refine ⟨⟨⟨⟨⟨⟨⟨⟨trivial, trivial, ?_⟩, trivial, ?_⟩, trivial, ?_⟩, trivial, ?_⟩, trivial, ?_⟩,
      trivial, ?_⟩, trivial, ?_⟩, trivial, ?_⟩
    all_goals decide +kernel
  refine ⟨hspared, by decide +kernel, ?_⟩
  obtain ⟨mapped, hmap, -, hoccupancy, -⟩ := mapped_service_stays hreachable hrecord
    (by decide +kernel) hspared (by decide +kernel) (some "port-2")
  refine ⟨mapped, hmap, ?_, ?_⟩
  · rw [Allocator.holds_iff, hoccupancy]
    decide +kernel
  · rw [Allocator.holds_iff, hoccupancy]
    decide +kernel

/-- A port is made and tracked, and then an operator deletes it. The allocator does not know and
maps a service to it. -/
def outlived : Allocation :=
  ((((Allocation.mk {} .sample).after (.changePool .provision)).after (.track ["port-1"])).after
    (.changePool (.remove "port-1"))).after (.map ⟨"ns", "web"⟩ [⟨.tcp, 80⟩] none)

/-- So a service does not keep every port that it has a record on: mapped again with the same ports,
it moves away from the port that is gone. -/
theorem exists_moved_service :
    ¬∀ (start : Allocation) (id : ServiceId) (ports : List TransportPort) (portId : String)
      (calls : List AllocatorCall) (preferred : Option String), start.Reachable →
        start.allocator.records[id]? = some { portId, ports } → start.Spared id portId calls →
        (start.through calls).pool.Online →
          ((start.through calls).allocator.map (start.through calls).pool id ports preferred).1.map
            Prod.fst = .ok portId := by
  intro hall
  have hmade : Reachable ((Allocation.mk {} .sample).after (.changePool .provision)) :=
    .call _ (.start (.empty _ _ _)) trivial
  have hreachable : outlived.Reachable := by
    refine .call _ (.call _ (.call _ hmade fun portId hportId => Or.inr ?_) trivial) trivial
    cases List.mem_singleton.mp hportId
    decide +kernel
  have hmoved : (outlived.allocator.map outlived.pool ⟨"ns", "web"⟩ [⟨.tcp, 80⟩] none).1.map
      Prod.fst = .ok "port-2" := by
    decide +kernel
  have hstays := hall outlived ⟨"ns", "web"⟩ [⟨.tcp, 80⟩] "port-1" [] none hreachable
    (by decide +kernel) trivial (by decide +kernel)
  exact absurd (hmoved.symm.trans hstays) (by decide)

end Allocation

end Balancer
