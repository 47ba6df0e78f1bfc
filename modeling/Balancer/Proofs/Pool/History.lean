import Mathlib
import Balancer.Pool
import Balancer.Proofs.Containers
import Balancer.Proofs.Pool.Numbering

/-!
# Histories of pools

What happens to a pool after it was set up: ports are made, deleted by cleaning or by an operator,
and a dynamic pool goes out of reach and comes back. Throughout, a pool never issues an identifier
twice, and it never gives a port other addresses than those it gave it first.
-/

namespace Balancer

/-- A change of a pool, by whomever. -/
inductive PoolChange where
  | provision
  | remove (id : String)
  | clean (used : List String)
  | setUnavailable (unavailable : Bool)
  deriving DecidableEq

/-- The dynamic pool after a change. -/
def DynamicPool.change (pool : DynamicPool) : PoolChange → DynamicPool
  | .provision => pool.provision.2
  | .remove id => pool.remove id
  | .clean used =>
    match pool.clean used with
    | .ok cleaned => cleaned
    | .error _ => pool
  | .setUnavailable unavailable => { pool with unavailable }

/-- Cleaning deletes and logs the ports that are not in use, as long as the pool can be reached. -/
theorem DynamicPool.change_clean (pool : DynamicPool) (used : List String) :
    pool.change (.clean used) =
      if pool.unavailable then pool
      else
        { pool with
          ports := pool.ports.filter fun id _ => decide (id ∈ used)
          deleted := pool.deleted ++ pool.ports.keys.filter fun id => decide (id ∉ used) } := by
  simp only [change, clean, whenReachable]
  cases pool.unavailable with
  | true => rfl
  | false => rfl

/-- Every change keeps the bookkeeping of a dynamic pool in order. -/
theorem DynamicPool.Sound.change {pool : DynamicPool} (hpool : pool.Sound) (change : PoolChange) :
    (pool.change change).Sound := by
  cases change with
  | provision => exact hpool.provision
  | remove id => exact hpool.remove id
  | clean used =>
    simp only [DynamicPool.change]
    cases hclean : pool.clean used with
    | error error => exact hpool
    | ok cleaned => exact hpool.clean hclean
  | setUnavailable unavailable => exact hpool.restrict rfl rfl rfl (Or.inl rfl) fun _ _ h => h

namespace Pool

/-- The pool after a change. A call that is refused may still use up an address. -/
def change (pool : Pool) : PoolChange → Pool
  | .provision => (PortPool.provision pool).2
  | .remove id => pool.remove id
  | .clean used =>
    match PortPool.clean pool used with
    | .ok cleaned => cleaned
    | .error _ => pool
  | .setUnavailable unavailable => pool.setUnavailable unavailable

/-- A dynamic pool stays one, and changes by itself. -/
theorem change_dynamic (pool : DynamicPool) (change : PoolChange) :
    (Pool.dynamic pool).change change = .dynamic (pool.change change) := by
  cases change with
  | clean used =>
    simp only [Pool.change, DynamicPool.change, PortPool.clean]
    cases pool.clean used with
    | error error => rfl
    | ok cleaned => rfl
  | _ => rfl

/-- The pools that a history of changes makes of a new pool. -/
inductive Reachable : Pool → Prop where
  | fixed (pool : FixedPool) : Reachable (.fixed pool)
  | empty (external internal : Block) (capacity : Option Nat) :
      Reachable (.dynamic (DynamicPool.empty external internal capacity))
  | change {pool : Pool} (change : PoolChange) : Reachable pool → Reachable (pool.change change)

/-- An empty pool with an external and an internal block of 256 addresses each. -/
def sample : Pool :=
  let externals : Block :=
    { base := Ipv4.ofNat 0xCB007100, length := 24, length_le := by decide, aligned := by decide }
  let internals : Block :=
    { base := Ipv4.ofNat 0x0A000000, length := 24, length_le := by decide, aligned := by decide }
  .dynamic (DynamicPool.empty externals internals none)

/-- Whether a pool lists an identifier, or has made a port with it, which may be gone since. -/
def HasIssued (pool : Pool) (id : String) : Prop :=
  match pool with
  | .fixed pool => id ∈ pool.ports
  | .dynamic pool => ∃ number, pool.Numbered number ∧ id = DynamicPool.portId number

/-- The addresses that a pool gave to a port, which may be gone since. -/
def Assigns (pool : Pool) (id : String) (external : ExternalAddress) (internal : String) : Prop :=
  match pool with
  | .fixed pool =>
    PortPool.external pool id = .ok external ∧ PortPool.internal pool id = .ok internal
  | .dynamic pool => ∃ number, pool.Numbered number ∧ id = DynamicPool.portId number ∧
      external = { ip := (pool.addressesOf number).external.text } ∧
      internal = (pool.addressesOf number).internal.text

/-- The bookkeeping of a dynamic pool is in order. -/
def Sound : Pool → Prop
  | .fixed _ => True
  | .dynamic pool => pool.Sound

/-- Every change keeps the bookkeeping in order. -/
theorem Sound.change {pool : Pool} (hpool : pool.Sound) (change : PoolChange) :
    (pool.change change).Sound := by
  cases pool with
  | fixed pool => cases change <;> trivial
  | dynamic pool =>
    rw [change_dynamic]
    exact DynamicPool.Sound.change hpool change

/-- The bookkeeping is in order throughout a history. -/
theorem Reachable.sound {pool : Pool} (hpool : pool.Reachable) : pool.Sound := by
  induction hpool with
  | fixed => trivial
  | empty external internal capacity => exact DynamicPool.sound_empty external internal capacity
  | change change _ ih => exact ih.change change

/-- A change of a dynamic pool keeps its blocks and never takes a number back. -/
theorem dynamic_change {pool : DynamicPool} (hpool : pool.Sound) (change : PoolChange) :
    ∃ changed, (Pool.dynamic pool).change change = .dynamic changed ∧
      pool.nextId ≤ changed.nextId ∧ changed.addressesOf = pool.addressesOf := by
  cases change with
  | provision =>
    refine ⟨pool.provision.2, rfl, ?_⟩
    rcases DynamicPool.provision_cases hpool with ⟨error, externals, heq, hblock, -⟩ | heq
    · rw [heq]
      refine ⟨le_rfl, funext fun number => ?_⟩
      simp only [DynamicPool.addressesOf, hblock]
    · rw [heq]
      exact ⟨Nat.le_succ _, rfl⟩
  | remove id => exact ⟨_, rfl, le_rfl, rfl⟩
  | clean used =>
    simp only [Pool.change, PortPool.clean, DynamicPool.clean, DynamicPool.whenReachable]
    cases pool.unavailable with
    | true => exact ⟨pool, rfl, le_rfl, rfl⟩
    | false => exact ⟨_, rfl, le_rfl, rfl⟩
  | setUnavailable unavailable => exact ⟨_, rfl, le_rfl, rfl⟩

/-- A fixed pool does not change. -/
theorem fixed_change (pool : FixedPool) (change : PoolChange) :
    (Pool.fixed pool).change change = .fixed pool := by
  cases change <;> rfl

/-- What was issued stays issued. -/
theorem HasIssued.change {pool : Pool} {id : String} (hid : pool.HasIssued id) (hpool : pool.Sound)
    (change : PoolChange) : (pool.change change).HasIssued id := by
  cases pool with
  | fixed pool => rwa [fixed_change]
  | dynamic pool =>
    obtain ⟨changed, heq, hnext, -⟩ := dynamic_change hpool change
    obtain ⟨number, hnumber, rfl⟩ := hid
    rw [heq]
    exact ⟨number, ⟨hnumber.1, hnumber.2.trans_le hnext⟩, rfl⟩

/-- The addresses given to a port stay the addresses given to it. -/
theorem Assigns.change {pool : Pool} {id internal : String} {external : ExternalAddress}
    (hid : pool.Assigns id external internal) (hpool : pool.Sound) (change : PoolChange) :
    (pool.change change).Assigns id external internal := by
  cases pool with
  | fixed pool => rwa [fixed_change]
  | dynamic pool =>
    obtain ⟨changed, heq, hnext, haddresses⟩ := dynamic_change hpool change
    obtain ⟨number, hnumber, rfl, rfl, rfl⟩ := hid
    rw [heq]
    exact ⟨number, ⟨hnumber.1, hnumber.2.trans_le hnext⟩, rfl, by rw [haddresses],
      by rw [haddresses]⟩

/-- Whether a pool gave ports all the addresses that another one gave them. -/
def KeepsAddresses (pool rest : Pool) : Prop :=
  ∀ id external internal, pool.Assigns id external internal → rest.Assigns id external internal

/-- Changes of a pool take no address back. -/
theorem Sound.keepsAddresses {pool : Pool} (hpool : pool.Sound) (change : PoolChange) :
    pool.KeepsAddresses (pool.change change) :=
  fun _ _ _ hid => hid.change hpool change

/-- A pool that a change may have moved is in order when it was before. -/
theorem Sound.of_moved {pool rest : Pool} (hpool : pool.Sound)
    (h : rest = pool ∨ ∃ change, rest = pool.change change) : rest.Sound := by
  rcases h with rfl | ⟨change, rfl⟩
  · exact hpool
  · exact hpool.change change

/-- A pool that a change may have moved takes no address back. -/
theorem Sound.keepsAddresses_of_moved {pool rest : Pool} (hpool : pool.Sound)
    (h : rest = pool ∨ ∃ change, rest = pool.change change) : pool.KeepsAddresses rest := by
  rcases h with rfl | ⟨change, rfl⟩
  · exact fun _ _ _ hid => hid
  · exact hpool.keepsAddresses change

/-- A port is given one pair of addresses only. -/
theorem Assigns.unique {pool : Pool} {id internal internal' : String}
    {external external' : ExternalAddress} (h : pool.Assigns id external internal)
    (h' : pool.Assigns id external' internal') : external = external' ∧ internal = internal' := by
  cases pool with
  | fixed pool =>
    obtain ⟨hexternal, hinternal⟩ := h
    obtain ⟨hexternal', hinternal'⟩ := h'
    rw [hexternal] at hexternal'
    rw [hinternal] at hinternal'
    cases hexternal'
    cases hinternal'
    exact ⟨rfl, rfl⟩
  | dynamic pool =>
    obtain ⟨number, -, hid, rfl, rfl⟩ := h
    obtain ⟨number', -, hid', rfl, rfl⟩ := h'
    cases DynamicPool.portId_injective (hid.symm.trans hid')
    exact ⟨rfl, rfl⟩

/-- A dynamic pool that answers for a port answers with the addresses given to it. -/
theorem assigns_of_addresses {pool : DynamicPool} {id : String} {addresses : PortAddresses}
    (hpool : pool.Sound) (h : pool.addresses id = .ok addresses) :
    (Pool.dynamic pool).Assigns id { ip := addresses.external.text } addresses.internal.text := by
  unfold DynamicPool.addresses DynamicPool.whenReachable at h
  split at h
  · cases h
  · split at h
    · next found hfound =>
      cases h
      obtain ⟨number, hnumber, hid, rfl⟩ := hpool.numbered id _ hfound
      exact ⟨number, hnumber, hid, rfl, rfl⟩
    · cases h

/-- A fixed pool answers with the address that it lists. -/
theorem assigns_of_address {pool : FixedPool} {id : String} {address : Ipv4}
    (h : pool.address id = .ok address) :
    (Pool.fixed pool).Assigns id { ip := address.text } address.text := by
  constructor
  · change (pool.address id).map _ = _
    rw [h]
    rfl
  · change (pool.address id).map _ = _
    rw [h]
    rfl

/-- The external address that a pool answers is the one given to the port. -/
theorem assigns_of_external {pool : Pool} {id : String} {external : ExternalAddress}
    (hpool : pool.Sound) (h : PortPool.external pool id = .ok external) :
    ∃ internal, pool.Assigns id external internal := by
  cases pool with
  | fixed pool =>
    obtain ⟨address, haddress, rfl⟩ := map_eq_ok (x := pool.address id) h
    exact ⟨_, assigns_of_address haddress⟩
  | dynamic pool =>
    obtain ⟨addresses, haddresses, rfl⟩ := map_eq_ok (x := pool.addresses id) h
    exact ⟨_, assigns_of_addresses hpool haddresses⟩

/-- The internal address that a pool answers is the one given to the port. -/
theorem assigns_of_internal {pool : Pool} {id internal : String}
    (hpool : pool.Sound) (h : PortPool.internal pool id = .ok internal) :
    ∃ external, pool.Assigns id external internal := by
  cases pool with
  | fixed pool =>
    obtain ⟨address, haddress, rfl⟩ := map_eq_ok (x := pool.address id) h
    exact ⟨_, assigns_of_address haddress⟩
  | dynamic pool =>
    obtain ⟨addresses, haddresses, rfl⟩ := map_eq_ok (x := pool.addresses id) h
    exact ⟨_, assigns_of_addresses hpool haddresses⟩

/-- The ports of a pool were issued by it. -/
theorem hasIssued_of_mem_ports {pool : Pool} {id : String} (hpool : pool.Sound)
    (h : id ∈ pool.ports) : pool.HasIssued id := by
  cases pool with
  | fixed pool => exact h
  | dynamic pool =>
    have hmem : id ∈ pool.ports := Std.ExtTreeMap.mem_keys.mp h
    obtain ⟨number, hnumber, hid, -⟩ :=
      hpool.numbered id _ (Std.ExtTreeMap.getElem?_eq_some_getElem hmem)
    exact ⟨number, hnumber, hid⟩

/-- A new port has an identifier that was never issued before. -/
theorem not_hasIssued_of_provision {pool rest : Pool} {id : String} (hpool : pool.Sound)
    (h : PortPool.provision pool = (.ok id, rest)) : ¬pool.HasIssued id ∧ rest.HasIssued id := by
  cases pool with
  | fixed pool => cases h
  | dynamic pool =>
    change (pool.provision.1, Pool.dynamic pool.provision.2) = _ at h
    rcases DynamicPool.provision_cases hpool with ⟨error, externals, heq, -⟩ | heq
    · rw [heq] at h
      cases h
    · rw [heq] at h
      cases h
      constructor
      · intro hissued
        obtain ⟨number, hnumber, hid⟩ := hissued
        have hsame : pool.nextId = number := DynamicPool.portId_injective hid
        exact absurd hnumber.2 (by omega)
      · exact ⟨pool.nextId, ⟨hpool.nextId_pos, Nat.lt_succ_self _⟩, rfl⟩

end Pool

end Balancer
