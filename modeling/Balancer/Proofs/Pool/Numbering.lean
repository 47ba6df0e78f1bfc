import Mathlib
import Balancer.Proofs.Pool.Provisioning

/-!
# The numbering of dynamic pools

The ports made by a dynamic pool are numbered, and both sequences of addresses move on by one with
every port. So the number of a port determines its two addresses, and neither is ever given to
another port, also after ports were deleted.
-/

namespace Balancer

namespace DynamicPool

/-- The addresses of the port with the given number. -/
def addressesOf (pool : DynamicPool) (number : Nat) : PortAddresses :=
  { external := Ipv4.ofNat (pool.externals.block.base.value + number)
    internal := Ipv4.ofNat (pool.internals.block.base.value + number) }

/-- Whether a port with this number was made. -/
def Numbered (pool : DynamicPool) (number : Nat) : Prop :=
  1 ≤ number ∧ number < pool.nextId

/-- Ports with different numbers have different identifiers. -/
theorem portId_injective : Function.Injective portId := by
  intro a b h
  have htext : toString a = toString b := (String.append_right_inj "port-").mp h
  exact Nat.repr_injective htext

/-- The bookkeeping of a dynamic pool. The external sequence may be ahead of the numbers, but only
once the internal block is used up, when no further port can be made. -/
structure Sound (pool : DynamicPool) : Prop where
  nextId_pos : 1 ≤ pool.nextId
  internals_next : pool.internals.next = pool.nextId
  externals_next :
    pool.externals.next = pool.nextId ∨ pool.internals.block.size ≤ pool.internals.next
  numbered : ∀ id addresses, pool.ports[id]? = some addresses →
    ∃ number, pool.Numbered number ∧ id = portId number ∧ addresses = pool.addressesOf number

/-- What provisioning does: it is refused, where at most an external address is used up, or it
makes the port with the next number. -/
theorem provision_cases {pool : DynamicPool} (hpool : pool.Sound) :
    (∃ error externals, pool.provision = (.error error, { pool with externals }) ∧
      externals.block = pool.externals.block ∧
      (externals = pool.externals ∨ pool.internals.block.size ≤ pool.internals.next)) ∨
    (pool.provision = (.ok (portId pool.nextId),
      { pool with
        ports := pool.ports.insert (portId pool.nextId) (pool.addressesOf pool.nextId)
        externals := { pool.externals with next := pool.externals.next + 1 }
        internals := { pool.internals with next := pool.internals.next + 1 }
        nextId := pool.nextId + 1 })) := by
  have hprovisioned := pool.provisioned
  generalize pool.provision = result at hprovisioned ⊢
  cases hprovisioned with
  | offline => exact Or.inl ⟨_, pool.externals, rfl, rfl, Or.inl rfl⟩
  | full => exact Or.inl ⟨_, pool.externals, rfl, rfl, Or.inl rfl⟩
  | noExternal => exact Or.inl ⟨_, pool.externals, rfl, rfl, Or.inl rfl⟩
  | noInternal _ _ _ hinternal => exact Or.inl ⟨_, _, rfl, rfl, Or.inr hinternal⟩
  | made _ _ _ hinternal =>
    have hnext : pool.externals.next = pool.nextId :=
      hpool.externals_next.resolve_right (by omega)
    right
    simp only [hnext, hpool.internals_next, addressesOf]

/-- A new pool is in order. -/
theorem sound_empty (external internal : Block) (capacity : Option Nat) :
    (empty external internal capacity).Sound where
  nextId_pos := le_rfl
  internals_next := rfl
  externals_next := Or.inl rfl
  numbered := by simp [empty]

/-- A pool whose ports are some of those of another one is in order when the other one is. -/
theorem Sound.restrict {pool other : DynamicPool} (hpool : pool.Sound)
    (hnext : other.nextId = pool.nextId) (hinternals : other.internals = pool.internals)
    (hexternals : other.externals.block = pool.externals.block)
    (hahead : other.externals = pool.externals ∨ pool.internals.block.size ≤ pool.internals.next)
    (hports : ∀ (id : String) (addresses : PortAddresses), other.ports[id]? = some addresses →
      pool.ports[id]? = some addresses) : other.Sound where
  nextId_pos := hnext ▸ hpool.nextId_pos
  internals_next := by rw [hinternals, hnext, hpool.internals_next]
  externals_next := by
    rw [hinternals, hnext]
    rcases hahead with hsame | hdone
    · rw [hsame]
      exact hpool.externals_next
    · exact Or.inr hdone
  numbered := by
    intro id addresses hid
    obtain ⟨number, hnumber, rfl, rfl⟩ := hpool.numbered id addresses (hports id addresses hid)
    refine ⟨number, ⟨hnumber.1, hnext ▸ hnumber.2⟩, rfl, ?_⟩
    simp only [addressesOf, hinternals, hexternals]

/-- Provisioning keeps a pool in order. -/
theorem Sound.provision {pool : DynamicPool} (hpool : pool.Sound) : pool.provision.2.Sound := by
  rcases provision_cases hpool with ⟨error, externals, heq, hblock, hahead⟩ | heq
  · rw [heq]
    exact hpool.restrict rfl rfl hblock hahead fun _ _ h => h
  · rw [heq]
    refine ⟨Nat.le_add_left 1 _, congrArg (· + 1) hpool.internals_next, ?_, ?_⟩
    · rcases hpool.externals_next with hnext | hdone
      · exact Or.inl (congrArg (· + 1) hnext)
      · exact Or.inr (Nat.le_succ_of_le hdone)
    · intro id addresses hid
      simp only [Std.ExtTreeMap.getElem?_insert, Std.LawfulEqOrd.compare_eq_iff_eq] at hid
      split at hid
      · next hnew =>
        cases hid
        exact ⟨pool.nextId, ⟨hpool.nextId_pos, Nat.lt_succ_self _⟩, hnew.symm, rfl⟩
      · obtain ⟨number, hnumber, rfl, rfl⟩ := hpool.numbered id addresses hid
        exact ⟨number, ⟨hnumber.1, Nat.lt_succ_of_lt hnumber.2⟩, rfl, rfl⟩

/-- Cleaning keeps a pool in order. -/
theorem Sound.clean {pool cleaned : DynamicPool} {used : List String} (hpool : pool.Sound)
    (h : pool.clean used = .ok cleaned) : cleaned.Sound := by
  unfold DynamicPool.clean whenReachable at h
  split at h
  · cases h
  · cases h
    refine hpool.restrict rfl rfl rfl (Or.inl rfl) fun id addresses hid => ?_
    simp only [Std.ExtTreeMap.getElem?_filter', Option.filter_eq_some_iff] at hid
    exact hid.1

/-- Deleting a port keeps a pool in order. -/
theorem Sound.remove {pool : DynamicPool} (hpool : pool.Sound) (id : String) :
    (pool.remove id).Sound := by
  refine hpool.restrict rfl rfl rfl (Or.inl rfl) fun other addresses hother => ?_
  simp only [DynamicPool.remove, Std.ExtTreeMap.getElem?_erase] at hother
  split at hother
  · cases hother
  · exact hother

end DynamicPool

end Balancer
