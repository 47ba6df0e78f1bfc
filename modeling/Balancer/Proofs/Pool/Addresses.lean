import Mathlib
import Balancer.Proofs.Address.Interval
import Balancer.Proofs.Pool.Availability

/-!
# Internal addresses of ports

No two ports of a pool have the same internal address, not even when one of them is gone. The
internal sequence of a dynamic pool never leaves its block, so that the numbers of its ports are
told apart by their addresses. A port of a fixed pool is its own address.
-/

namespace Balancer

/-- What provisioning does to the internal sequence: nothing, or one address of the block is
drawn. -/
theorem DynamicPool.internals_provision (pool : DynamicPool) :
    pool.provision.2.internals = pool.internals ∨
      pool.internals.next < pool.internals.block.size ∧
        pool.provision.2.internals = { pool.internals with next := pool.internals.next + 1 } := by
  have hprovisioned := pool.provisioned
  generalize pool.provision = result at hprovisioned ⊢
  cases hprovisioned with
  | made _ _ _ hinternal => exact Or.inr ⟨hinternal, rfl⟩
  | _ => exact Or.inl rfl

namespace Pool

/-- The internal addresses that a dynamic pool gave to its ports are addresses of its block. -/
def InBlock : Pool → Prop
  | .fixed _ => True
  | .dynamic pool => pool.internals.next ≤ pool.internals.block.size

/-- Every change keeps the internal addresses in the block. -/
theorem InBlock.change {pool : Pool} (h : pool.InBlock) (change : PoolChange) :
    (pool.change change).InBlock := by
  cases pool with
  | fixed pool =>
    rw [fixed_change]
    trivial
  | dynamic pool =>
    cases change with
    | provision =>
      change pool.provision.2.internals.next ≤ pool.provision.2.internals.block.size
      rcases pool.internals_provision with heq | ⟨hlt, heq⟩
      · rw [heq]
        exact h
      · rw [heq]
        exact hlt
    | remove id => exact h
    | clean used =>
      simp only [Pool.change, PortPool.clean, DynamicPool.clean, DynamicPool.whenReachable]
      cases pool.unavailable with
      | true => exact h
      | false => exact h
    | setUnavailable unavailable => exact h

/-- The internal addresses are in the block throughout a history. -/
theorem Reachable.inBlock {pool : Pool} (hpool : pool.Reachable) : pool.InBlock := by
  induction hpool with
  | fixed => trivial
  | empty external internal capacity => exact internal.size_pos
  | change change _ ih => exact ih.change change

/-- The numbers of the ports of a dynamic pool are told apart by their internal addresses. -/
theorem number_injective {pool : DynamicPool} (hpool : pool.Sound)
    (hblock : (Pool.dynamic pool).InBlock) {number other : Nat} (hnumber : pool.Numbered number)
    (hother : pool.Numbered other)
    (heq : (pool.addressesOf number).internal = (pool.addressesOf other).internal) :
    number = other := by
  have hnext : pool.nextId ≤ pool.internals.block.size := hpool.internals_next ▸ hblock
  exact Block.eq_of_ofNat_eq (hnumber.2.trans_le hnext) (hother.2.trans_le hnext) heq

/-- No two ports have the same internal address. -/
theorem Reachable.internal_injective {pool : Pool} (hpool : pool.Reachable)
    {first second internal : String} (hfirst : PortPool.internal pool first = .ok internal)
    (hsecond : PortPool.internal pool second = .ok internal) : first = second := by
  cases pool with
  | fixed pool =>
    -- An identifier that is found is the written form of the address itself.
    obtain ⟨address, haddress, rfl⟩ := map_eq_ok (x := pool.address first) hfirst
    obtain ⟨address', haddress', heq⟩ := map_eq_ok (x := pool.address second) hsecond
    rw [← (FixedPool.address_eq_ok_iff.mp haddress).2, ← heq,
      (FixedPool.address_eq_ok_iff.mp haddress').2]
  | dynamic pool =>
    have hsound : pool.Sound := hpool.sound
    obtain ⟨_, number, hnumber, rfl, -, htext⟩ := assigns_of_internal hpool.sound hfirst
    obtain ⟨_, other, hother, rfl, -, htext'⟩ := assigns_of_internal hpool.sound hsecond
    have heq := Ipv4.text_injective (htext.symm.trans htext')
    rw [number_injective hsound hpool.inBlock hnumber hother heq]

end Pool

end Balancer
