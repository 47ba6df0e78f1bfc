import Mathlib
import Balancer.Proofs.Allocator.Exactness

/-!
# Histories of the allocator

An allocator starts empty over some pool. From then on calls of the allocator and changes of the
pool follow each other in any order, and each may succeed or fail. The allocator is told to track
only ports that the pool lists or has made.
-/

namespace Balancer

/-- An allocator with the pool that it draws on. -/
structure Allocation where
  allocator : Allocator := {}
  pool : Pool

/-- A call of the allocator, or a change of the pool by someone else. -/
inductive AllocatorCall where
  | map (id : ServiceId) (ports : List TransportPort) (preferred : Option String)
  | unmap (id : ServiceId)
  | prune
  | setAvailable (portIds : List String)
  | track (portIds : List String)
  | changePool (change : PoolChange)

namespace Allocation

/-- The state after a call; a mapping that fails may still have moved the pool. -/
def after (allocation : Allocation) : AllocatorCall → Allocation
  | .map id ports preferred =>
    match allocation.allocator.map allocation.pool id ports preferred with
    | (.ok (_, allocator), pool) => { allocator, pool }
    | (.error _, pool) => { allocation with pool }
  | .unmap id => { allocation with allocator := allocation.allocator.unmap id }
  | .prune => { allocation with allocator := allocation.allocator.prune }
  | .setAvailable portIds =>
    { allocation with allocator := (allocation.allocator.setAvailable portIds).2 }
  | .track portIds => { allocation with allocator := allocation.allocator.track portIds }
  | .changePool change => { allocation with pool := allocation.pool.change change }

/-- Mapping a service moves the pool as the mapping does, whether it succeeds or not. -/
theorem pool_after_map (allocation : Allocation) (id : ServiceId) (ports : List TransportPort)
    (preferred : Option String) :
    (allocation.after (.map id ports preferred)).pool =
      (allocation.allocator.map allocation.pool id ports preferred).2 := by
  simp only [after]
  split
  · next heq => rw [heq]
  · next heq => rw [heq]

/-- What callers keep to: they have a port tracked only if the pool lists it or has made it. -/
def Permits (allocation : Allocation) : AllocatorCall → Prop
  | .track portIds =>
    ∀ portId ∈ portIds, allocation.pool.HasIssued portId ∨ portId ∈ allocation.pool.ports
  | _ => True

/-- The states that calls lead to from an empty allocator. -/
inductive Reachable : Allocation → Prop where
  | start {pool : Pool} (hpool : pool.Reachable) : Reachable { pool }
  | call {allocation : Allocation} (call : AllocatorCall) :
      Reachable allocation → allocation.Permits call → Reachable (allocation.after call)

/-- The tracked ports of a dynamic pool were issued by it. -/
def TracksIssued (allocator : Allocator) : Pool → Prop
  | .fixed _ => True
  | .dynamic pool => ∀ portId ∈ allocator.tracked, (Pool.dynamic pool).HasIssued portId

/-- What every call preserves. -/
structure Sound (allocation : Allocation) : Prop where
  exact : allocation.allocator.Exact
  pool : allocation.pool.Sound
  issued : TracksIssued allocation.allocator allocation.pool

/-- Issued ports stay issued when the pool changes. -/
theorem TracksIssued.change {allocator : Allocator} {pool : Pool}
    (hissued : TracksIssued allocator pool) (hpool : pool.Sound) (change : PoolChange) :
    TracksIssued allocator (pool.change change) := by
  cases pool with
  | fixed pool =>
    rw [Pool.fixed_change]
    trivial
  | dynamic pool =>
    obtain ⟨changed, heq, -⟩ := Pool.dynamic_change hpool change
    have hkept (portId : String) (hportId : portId ∈ allocator.tracked) :=
      (hissued portId hportId).change hpool change
    rw [heq] at hkept ⊢
    exact hkept

/-- An allocator that tracks fewer ports tracks issued ones still. -/
theorem TracksIssued.mono {allocator other : Allocator} {pool : Pool}
    (hissued : TracksIssued allocator pool)
    (hsub : ∀ portId, portId ∈ other.tracked → portId ∈ allocator.tracked ∨ pool.HasIssued portId) :
    TracksIssued other pool := by
  cases pool with
  | fixed pool => trivial
  | dynamic pool =>
    intro portId hportId
    exact (hsub portId hportId).elim (hissued portId) id

/-- The port that a service is placed on was tracked or issued. -/
theorem TracksIssued.placed {allocator prepared : Allocator} {pool rest : Pool} {id : ServiceId}
    {ports : List TransportPort} {preferred : Option String} {portId : String}
    (hissued : TracksIssued allocator pool) (hpool : pool.Sound)
    (hplaced : allocator.Placed pool id ports preferred portId prepared rest) :
    rest.Sound ∧ TracksIssued (prepared.bind id ports portId) rest := by
  have htracked := hplaced.mem_tracked
  cases hplaced with
  | kept _ hpresent _ =>
    refine ⟨hpool, ?_⟩
    cases pool with
    | fixed pool => trivial
    | dynamic pool =>
      intro other hother
      rcases (htracked other).mp hother with rfl | hold
      · have hport : other ∈ pool.ports := by
          change pool.whenReachable _ = _ at hpresent
          unfold DynamicPool.whenReachable at hpresent
          split at hpresent
          · cases hpresent
          · simpa using Except.ok.inj hpresent
        exact Pool.hasIssued_of_mem_ports hpool (Std.ExtTreeMap.mem_keys.mpr hport)
      · exact hissued other hold
  | found skip hfirst =>
    refine ⟨hpool, hissued.mono fun other hother => Or.inl ?_⟩
    rcases (htracked other).mp hother with rfl | hold
    · obtain ⟨-, occupancy, hoccupancy, -⟩ := Allocator.firstFit_eq_some hfirst
      exact mem_of_getElem?_eq_some hoccupancy
    · exact hold
  | made hmade =>
    have hrest : rest = pool.change .provision := by simp only [Pool.change, hmade]
    refine ⟨hrest ▸ hpool.change .provision, ?_⟩
    have hkept : TracksIssued allocator rest := hrest ▸ hissued.change hpool .provision
    refine hkept.mono fun other hother => ?_
    rcases (htracked other).mp hother with rfl | hold
    · exact Or.inr (Pool.not_hasIssued_of_provision hpool hmade).2
    · exact Or.inl hold

/-- A port that the pool makes is not tracked yet. -/
theorem Sound.not_mem_tracked_of_provision {allocation : Allocation} (hsound : allocation.Sound)
    {portId : String} {rest : Pool}
    (hmade : PortPool.provision allocation.pool = (.ok portId, rest)) :
    portId ∉ allocation.allocator.tracked := by
  obtain ⟨allocator, pool⟩ := allocation
  cases pool with
  | fixed pool => cases hmade
  | dynamic pool =>
    intro htracked
    exact (Pool.not_hasIssued_of_provision hsound.pool hmade).1 (hsound.issued portId htracked)

/-- Every call that callers may make keeps the occupancy exact and the tracked ports issued. -/
theorem Sound.after {allocation : Allocation} (hsound : allocation.Sound) {call : AllocatorCall}
    (hpermits : allocation.Permits call) : (allocation.after call).Sound := by
  have ⟨hexact, hpool, hissued⟩ := hsound
  cases call with
  | map id ports preferred =>
    rcases allocation.allocator.map_cases allocation.pool id ports preferred with
      ⟨portId, prepared, rest, hplaced, heq⟩ | ⟨error, rest, hrest, heq⟩
    · simp only [Allocation.after, heq]
      obtain ⟨hrest, hbound⟩ := hissued.placed hpool hplaced
      refine ⟨?_, hrest, hbound⟩
      have hprepared : prepared.Exact := by
        cases hplaced with
        | kept => exact hexact
        | found => exact hexact
        | made hmade => exact hexact.startPort (hsound.not_mem_tracked_of_provision hmade)
      exact hprepared.bind hplaced.holder_eq
    · simp only [Allocation.after, heq]
      rcases hrest with rfl | rfl
      · exact ⟨hexact, hpool, hissued⟩
      · exact ⟨hexact, hpool.change .provision, hissued.change hpool .provision⟩
  | unmap id =>
    refine ⟨hexact.unmap id, hpool, hissued.mono fun portId hportId => Or.inl ?_⟩
    exact (Allocator.mem_tracked_unmap _ _ _).mp hportId
  | prune =>
    refine ⟨hexact.prune, hpool, hissued.mono fun portId hportId => Or.inl ?_⟩
    exact Std.ExtTreeMap.mem_of_mem_filter hportId
  | setAvailable portIds =>
    refine ⟨hexact.setAvailable portIds, hpool, hissued.mono fun portId hportId => Or.inl ?_⟩
    exact Std.ExtTreeMap.mem_of_mem_filter hportId
  | track portIds =>
    refine ⟨hexact.track portIds, hpool, hissued.mono fun portId hportId => ?_⟩
    rcases (Allocator.mem_tracked_track _ _ _).mp hportId with hnew | hold
    · exact Or.inr ((hpermits portId hnew).elim id (Pool.hasIssued_of_mem_ports hpool))
    · exact Or.inl hold
  | changePool change => exact ⟨hexact, hpool.change change, hissued.change hpool change⟩

/-- Every state that calls lead to is sound. -/
theorem Reachable.sound {allocation : Allocation} (h : allocation.Reachable) :
    allocation.Sound := by
  induction h with
  | @start pool hpool =>
    refine ⟨Allocator.exact_empty, hpool.sound, ?_⟩
    cases pool with
    | fixed pool => trivial
    | dynamic pool => simp [TracksIssued]
  | call call _ hpermits ih => exact ih.after hpermits

/-- Occupancy is exact: in every state that calls lead to, a number is taken on a port exactly by
the service whose record names the port and lists the number. So no two services on one port share
a number, whatever the protocols, and a port that the pool makes is new to the allocator. -/
theorem occupancy_exact {allocation : Allocation} (h : allocation.Reachable) :
    (∀ portId number id, allocation.allocator.Holds portId number id ↔
      ∃ record, allocation.allocator.records[id]? = some record ∧ record.portId = portId ∧
        ∃ port ∈ record.ports, port.number = number) ∧
    (∀ (first second : ServiceId) (one other : Mapping), first ≠ second →
      allocation.allocator.records[first]? = some one →
      allocation.allocator.records[second]? = some other → one.portId = other.portId →
      ∀ port ∈ one.ports, ∀ port' ∈ other.ports, port.number ≠ port'.number) ∧
    (∀ portId rest, PortPool.provision allocation.pool = (.ok portId, rest) →
      portId ∉ allocation.allocator.tracked) := by
  have hsound := h.sound
  refine ⟨hsound.exact, ?_, fun portId rest hmade => hsound.not_mem_tracked_of_provision hmade⟩
  intro first second one other hne hone hother hsame port hport port' hport' hnumber
  have hfirst := (hsound.exact one.portId port.number first).mpr ⟨one, hone, rfl, port, hport, rfl⟩
  have hsecond := (hsound.exact one.portId port.number second).mpr
    ⟨other, hother, hsame.symm, port', hport', hnumber.symm⟩
  rw [Allocator.holds_iff] at hfirst hsecond
  exact hne (Option.some.inj (hfirst.symm.trans hsecond))

/-- Two services have asked for number 53, one over TCP and one over UDP. -/
def contested : Allocation :=
  (after { pool := .sample } (.map ⟨"ns", "tcp"⟩ [⟨.tcp, 53⟩] none)).after
    (.map ⟨"ns", "udp"⟩ [⟨.udp, 53⟩] none)

/-- The contested number is held on two ports, by one service each. -/
theorem occupancy_exact_contested :
    contested.Reachable ∧ contested.allocator.Holds "port-1" 53 ⟨"ns", "tcp"⟩ ∧
      contested.allocator.Holds "port-2" 53 ⟨"ns", "udp"⟩ := by
  have hstart : Reachable { pool := .sample } := .start (.empty _ _ _)
  have hreachable : contested.Reachable :=
    .call _ (.call _ hstart trivial) trivial
  have hexact := (occupancy_exact hreachable).1
  refine ⟨hreachable, ?_, ?_⟩
  · exact (hexact _ _ _).mpr ⟨⟨"port-1", [⟨.tcp, 53⟩]⟩, by decide +kernel, rfl, _, .head _, rfl⟩
  · exact (hexact _ _ _).mpr ⟨⟨"port-2", [⟨.udp, 53⟩]⟩, by decide +kernel, rfl, _, .head _, rfl⟩

end Allocation

end Balancer
