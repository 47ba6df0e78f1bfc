import Mathlib
import Balancer.Proofs.Pool.Addresses

/-!
# What is left of the blocks

A dynamic pool keeps the blocks and the capacity that it was set up with. It never draws more
addresses than a block has behind its base, and it draws an external address for every port that it
makes. So the number of a port is less than the size of either block, and the two addresses of the
port are as far behind the bases as the number says.
-/

namespace Balancer

namespace DynamicPool

/-- A pool over an external and an internal block with a capacity: the blocks are not overdrawn, and
the capacity is not exceeded. -/
structure Supplied (external internal : Block) (capacity : Option Nat) (pool : DynamicPool) :
    Prop where
  sound : pool.Sound
  externals_block : pool.externals.block = external
  internals_block : pool.internals.block = internal
  capacity_eq : pool.capacity = capacity
  ahead : pool.nextId ≤ pool.externals.next
  externals_le : pool.externals.next ≤ external.size
  inBlock : (Pool.dynamic pool).InBlock
  size_le : ∀ limit, capacity = some limit → pool.ports.size ≤ limit

variable {external internal : Block} {capacity : Option Nat} {pool : DynamicPool}

/-- A new pool has drawn nothing. -/
theorem supplied_empty (external internal : Block) (capacity : Option Nat) :
    (empty external internal capacity).Supplied external internal capacity where
  sound := sound_empty external internal capacity
  externals_block := rfl
  internals_block := rfl
  capacity_eq := rfl
  ahead := le_rfl
  externals_le := external.size_pos
  inBlock := internal.size_pos
  size_le _ _ := Nat.zero_le _

/-- The internal addresses that were drawn are addresses of the internal block. -/
theorem Supplied.internals_le (h : pool.Supplied external internal capacity) :
    pool.internals.next ≤ internal.size :=
  h.internals_block ▸ h.inBlock

/-- A change that only deletes ports draws nothing. -/
theorem Supplied.restrict {rest : DynamicPool} (h : pool.Supplied external internal capacity)
    (hsound : rest.Sound) (hexternals : rest.externals = pool.externals)
    (hinternals : rest.internals = pool.internals) (hcapacity : rest.capacity = pool.capacity)
    (hnext : rest.nextId = pool.nextId) (hsize : rest.ports.size ≤ pool.ports.size) :
    rest.Supplied external internal capacity where
  sound := hsound
  externals_block := hexternals ▸ h.externals_block
  internals_block := hinternals ▸ h.internals_block
  capacity_eq := hcapacity.trans h.capacity_eq
  ahead := by rw [hnext, hexternals]; exact h.ahead
  externals_le := hexternals ▸ h.externals_le
  inBlock := by rw [Pool.InBlock, hinternals]; exact h.inBlock
  size_le limit hlimit := hsize.trans (h.size_le limit hlimit)

/-- Making a port draws at most what is left. -/
theorem Supplied.provision (h : pool.Supplied external internal capacity) :
    pool.provision.2.Supplied external internal capacity := by
  have hsound := h.sound.provision
  have hinBlock : (Pool.dynamic pool.provision.2).InBlock := h.inBlock.change .provision
  have hprovisioned := pool.provisioned
  generalize pool.provision = result at hsound hinBlock hprovisioned ⊢
  cases hprovisioned with
  | offline => exact h
  | full => exact h
  | noExternal => exact h
  | noInternal _ _ hexternal _ =>
    rw [h.externals_block] at hexternal
    exact
      { h with
        sound := hsound
        ahead := h.ahead.trans (Nat.le_succ _)
        externals_le := hexternal }
  | made _ hroom hexternal _ =>
    rw [h.externals_block] at hexternal
    refine
      { h with
        sound := hsound
        ahead := Nat.succ_le_succ h.ahead
        externals_le := hexternal
        inBlock := hinBlock
        size_le := fun limit hlimit => ?_ }
    have hfewer := size_lt_of_limitReached hroom (h.capacity_eq.trans hlimit)
    exact Std.ExtTreeMap.size_insert_le.trans hfewer

/-- Every change keeps to what is left. -/
theorem Supplied.change (h : pool.Supplied external internal capacity) (change : PoolChange) :
    (pool.change change).Supplied external internal capacity := by
  have hsound := h.sound.change change
  cases change with
  | provision => exact h.provision
  | remove id => exact h.restrict hsound rfl rfl rfl rfl Std.ExtTreeMap.size_erase_le
  | clean used =>
    rw [change_clean] at hsound ⊢
    split at hsound
    · next hoffline => rwa [if_pos hoffline]
    · next honline =>
      rw [if_neg honline]
      exact h.restrict hsound rfl rfl rfl rfl Std.ExtTreeMap.size_filter_le_size
  | setUnavailable unavailable => exact h.restrict hsound rfl rfl rfl rfl le_rfl

/-- The next number is not beyond the sizes of the blocks. -/
theorem Supplied.nextId_le (h : pool.Supplied external internal capacity) :
    pool.nextId ≤ external.size ∧ pool.nextId ≤ internal.size := by
  have hinternal := h.internals_le
  rw [h.sound.internals_next] at hinternal
  exact ⟨h.ahead.trans h.externals_le, hinternal⟩

/-- Every number that was given to a port is less than the sizes of the blocks. -/
theorem Supplied.lt_size (h : pool.Supplied external internal capacity) {number : Nat}
    (hnumber : pool.Numbered number) : number < external.size ∧ number < internal.size :=
  ⟨hnumber.2.trans_le h.nextId_le.1, hnumber.2.trans_le h.nextId_le.2⟩

end DynamicPool

/-- A dynamic pool with a history keeps to the blocks and the capacity that it was set up with. -/
theorem Pool.Reachable.supplied {pool : DynamicPool} (hpool : (Pool.dynamic pool).Reachable) :
    ∃ external internal capacity, pool.Supplied external internal capacity := by
  generalize hsame : Pool.dynamic pool = reached at hpool
  induction hpool generalizing pool with
  | fixed => cases hsame
  | empty external internal capacity =>
    cases hsame
    exact ⟨external, internal, capacity, DynamicPool.supplied_empty external internal capacity⟩
  | @change before change _ ih =>
    cases before with
    | fixed fixed =>
      rw [fixed_change] at hsame
      cases hsame
    | dynamic earlier =>
      rw [change_dynamic] at hsame
      cases hsame
      obtain ⟨external, internal, capacity, hsupplied⟩ := ih rfl
      exact ⟨external, internal, capacity, hsupplied.change change⟩

end Balancer
