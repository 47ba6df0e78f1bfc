import Mathlib
import Balancer.Pool.Dynamic

/-!
# How making a port ends

A call to make a port ends in one of five ways. Which one it is depends on whether the pool can be
reached, on its capacity, and on what is left of its two blocks, and it is looked at in this order.
The external address is drawn before it is known whether there is an internal one, and it is not
taken back.
-/

namespace Balancer

namespace AddressSequence

/-- Drawing an address moves the sequence on by one and stays in the block. -/
theorem take_eq_ok {sequence rest : AddressSequence} {address : Ipv4}
    (h : sequence.take = .ok (address, rest)) :
    sequence.next < sequence.block.size ∧
      address = Ipv4.ofNat (sequence.block.base.value + sequence.next) ∧
      rest = { sequence with next := sequence.next + 1 } := by
  unfold take at h
  split at h
  · next hlt =>
    cases h
    exact ⟨hlt, rfl, rfl⟩
  · cases h

/-- A sequence refuses to give an address only when its block is used up, and says so. -/
theorem take_eq_error {sequence : AddressSequence} {error : PoolError}
    (h : sequence.take = .error error) :
    sequence.block.size ≤ sequence.next ∧ error = .blockExhausted sequence.block := by
  unfold take at h
  split at h
  · cases h
  · next hlt =>
    cases h
    exact ⟨Nat.le_of_not_lt hlt, rfl⟩

end AddressSequence

namespace DynamicPool

/-- A pool has no room when it has as many ports as its capacity allows. -/
theorem limitReached_eq_some {pool : DynamicPool} {error : PoolError}
    (h : pool.limitReached = some error) :
    ∃ capacity, pool.capacity = some capacity ∧ capacity ≤ pool.ports.size ∧
      error = .capacityReached capacity := by
  unfold limitReached at h
  split at h
  · cases h
  · next capacity hcapacity =>
    split at h
    · next hfull =>
      cases h
      exact ⟨capacity, hcapacity, hfull, rfl⟩
    · cases h

/-- A pool that has room has fewer ports than its capacity allows. -/
theorem size_lt_of_limitReached {pool : DynamicPool} (h : pool.limitReached = none) {capacity : Nat}
    (hcapacity : pool.capacity = some capacity) : pool.ports.size < capacity := by
  simpa [limitReached, hcapacity] using h

/-- The five ways in which making a port ends, with the answer and the pool afterwards. -/
inductive Provisioned (pool : DynamicPool) : Except PoolError String × DynamicPool → Prop where
  | offline (hoffline : pool.unavailable = true) : Provisioned pool (.error .offline, pool)
  | full {capacity : Nat} (honline : pool.unavailable = false)
      (hcapacity : pool.capacity = some capacity) (hfull : capacity ≤ pool.ports.size) :
      Provisioned pool (.error (.capacityReached capacity), pool)
  | noExternal (honline : pool.unavailable = false) (hroom : pool.limitReached = none)
      (hexternal : pool.externals.block.size ≤ pool.externals.next) :
      Provisioned pool (.error (.blockExhausted pool.externals.block), pool)
  | noInternal (honline : pool.unavailable = false) (hroom : pool.limitReached = none)
      (hexternal : pool.externals.next < pool.externals.block.size)
      (hinternal : pool.internals.block.size ≤ pool.internals.next) :
      Provisioned pool (.error (.blockExhausted pool.internals.block),
        { pool with externals := { pool.externals with next := pool.externals.next + 1 } })
  | made (honline : pool.unavailable = false) (hroom : pool.limitReached = none)
      (hexternal : pool.externals.next < pool.externals.block.size)
      (hinternal : pool.internals.next < pool.internals.block.size) :
      Provisioned pool (.ok (portId pool.nextId),
        { pool with
          ports := pool.ports.insert (portId pool.nextId)
            { external := Ipv4.ofNat (pool.externals.block.base.value + pool.externals.next)
              internal := Ipv4.ofNat (pool.internals.block.base.value + pool.internals.next) }
          externals := { pool.externals with next := pool.externals.next + 1 }
          internals := { pool.internals with next := pool.internals.next + 1 }
          nextId := pool.nextId + 1 })

/-- Making a port ends in one of these ways. -/
theorem provisioned (pool : DynamicPool) : pool.Provisioned pool.provision := by
  unfold provision
  split
  · next hoffline => exact .offline hoffline
  · next honline =>
    rw [Bool.not_eq_true] at honline
    split
    · next hlimit =>
      obtain ⟨capacity, hcapacity, hfull, rfl⟩ := limitReached_eq_some hlimit
      exact .full honline hcapacity hfull
    · next hroom =>
      split
      · next hexternal =>
        obtain ⟨hused, rfl⟩ := AddressSequence.take_eq_error hexternal
        exact .noExternal honline hroom hused
      · next hexternal =>
        obtain ⟨hleft, rfl, rfl⟩ := AddressSequence.take_eq_ok hexternal
        split
        · next hinternal =>
          obtain ⟨hused, rfl⟩ := AddressSequence.take_eq_error hinternal
          exact .noInternal honline hroom hleft hused
        · next hinternal =>
          obtain ⟨hleft', rfl, rfl⟩ := AddressSequence.take_eq_ok hinternal
          exact .made honline hroom hleft hleft'

end DynamicPool

end Balancer
