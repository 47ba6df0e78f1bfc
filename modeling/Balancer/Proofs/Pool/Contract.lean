import Mathlib
import Balancer.Proofs.Pool.Availability
import Balancer.Proofs.Pool.Supply

/-!
# What callers of a pool rely on

The callers of a pool adopt any text as the identifier of a port, once the pool says that there is
such a port. So the answers to the different calls have to fit together for every text: the pool has
a port exactly if it lists it, and exactly if it has its addresses, and different ports are
different resources. A fixed pool meets this since an address has only one written form, and a
dynamic pool since it never issues an address twice.
-/

namespace Balancer

/-- What the callers of a pool of any kind rely on. -/
structure Contract {π : Type} [PortPool π] (pool : π) : Prop where
  hasPort : ∀ id, ∃ answer, PortPool.hasPort pool id = .ok answer
  available : ∃ ids, PortPool.available pool = .ok ids ∧
    ∀ id, PortPool.hasPort pool id = .ok true ↔ id ∈ ids
  external : ∀ id, PortPool.hasPort pool id = .ok true ↔
    ∃ address, PortPool.external pool id = .ok address
  internal : ∀ id, PortPool.hasPort pool id = .ok true ↔
    ∃ address, PortPool.internal pool id = .ok address
  external_ne : ∀ first second address address', first ≠ second →
    PortPool.external pool first = .ok address → PortPool.external pool second = .ok address' →
      address.ip ≠ address'.ip
  internal_ne : ∀ first second address address', first ≠ second →
    PortPool.internal pool first = .ok address → PortPool.internal pool second = .ok address' →
      address ≠ address'
  clean : ∀ used, ∃ cleaned, PortPool.clean pool used = .ok cleaned ∧
    ∀ id ∈ used, PortPool.hasPort pool id = .ok true → PortPool.hasPort cleaned id = .ok true

namespace Pool

variable {pool : Pool}

/-- A pool that can be reached lists its ports. -/
theorem Online.available_eq (h : pool.Online) : PortPool.available pool = .ok pool.ports := by
  cases pool with
  | fixed pool => rfl
  | dynamic pool =>
    change pool.whenReachable _ = _
    rw [DynamicPool.whenReachable, if_neg (by simp [show pool.unavailable = false from h])]
    rfl

/-- No two ports have the same external address. -/
theorem Reachable.external_injective (hpool : pool.Reachable) {first second : String}
    {address address' : ExternalAddress} (hfirst : PortPool.external pool first = .ok address)
    (hsecond : PortPool.external pool second = .ok address') (heq : address.ip = address'.ip) :
    first = second := by
  cases pool with
  | fixed pool =>
    obtain ⟨found, hfound, rfl⟩ := map_eq_ok (x := pool.address first) hfirst
    obtain ⟨found', hfound', rfl⟩ := map_eq_ok (x := pool.address second) hsecond
    rw [← (FixedPool.address_eq_ok_iff.mp hfound).2, ← (FixedPool.address_eq_ok_iff.mp hfound').2]
    exact heq
  | dynamic pool =>
    obtain ⟨externals, internals, capacity, hsupplied⟩ := hpool.supplied
    obtain ⟨_, number, hnumber, rfl, rfl, -⟩ := assigns_of_external hpool.sound hfirst
    obtain ⟨_, other, hother, rfl, rfl, -⟩ := assigns_of_external hpool.sound hsecond
    have hfits := (hsupplied.lt_size hnumber).1
    have hfits' := (hsupplied.lt_size hother).1
    rw [← hsupplied.externals_block] at hfits hfits'
    rw [Block.eq_of_ofNat_eq hfits hfits' (Ipv4.text_injective heq)]

/-- Cleaning a pool that can be reached keeps the ports in use. -/
theorem Online.exists_clean (h : pool.Online) (used : List String) :
    ∃ cleaned, PortPool.clean pool used = .ok cleaned ∧
      ∀ id ∈ used, pool.Offers id → cleaned.Offers id := by
  cases pool with
  | fixed pool => exact ⟨.fixed pool, rfl, fun _ _ hport => hport⟩
  | dynamic pool =>
    change pool.unavailable = false at h
    refine ⟨.dynamic (pool.change (.clean used)), ?_, fun id hused hport => ?_⟩
    · rw [DynamicPool.change_clean, if_neg (by simp [h])]
      change (pool.clean used).map _ = _
      rw [DynamicPool.clean, DynamicPool.whenReachable, if_neg (by simp [h])]
      rfl
    · rw [offers_dynamic_iff] at hport ⊢
      rw [DynamicPool.change_clean, if_neg (by simp [h])]
      exact ⟨h, by simp [Std.ExtTreeMap.mem_filter, hport.2, hused]⟩

/-- A pool with a history that can be reached is what its callers rely on. -/
theorem Reachable.contract (hpool : pool.Reachable) (honline : pool.Online) : Contract pool where
  hasPort id := by
    rcases honline.hasPort_cases id with hport | habsent
    · exact ⟨true, hport⟩
    · exact ⟨false, habsent⟩
  available := ⟨pool.ports, honline.available_eq, fun _ => honline.offers_iff⟩
  external _ := offers_iff_external
  internal _ := offers_iff_internal
  external_ne _ _ _ _ hne hfirst hsecond heq := hne (hpool.external_injective hfirst hsecond heq)
  internal_ne first second address address' hne hfirst hsecond heq := by
    subst heq
    exact hne (hpool.internal_injective hfirst hsecond)
  clean := honline.exists_clean

/-- Both kinds of pools are what their callers rely on, a fixed pool always and a dynamic pool with
any history as long as it can be reached. The ports of a fixed pool are the written forms of its
addresses, and no other text stands for one of them. -/
theorem contract_kept :
    (∀ pool : FixedPool, Contract (Pool.fixed pool) ∧
      ∀ id, PortPool.hasPort (Pool.fixed pool) id = .ok true ↔
        ∃ address ∈ pool.addresses, address.text = id) ∧
      ∀ pool : DynamicPool, (Pool.dynamic pool).Reachable → pool.unavailable = false →
        Contract (Pool.dynamic pool) := by
  refine ⟨fun pool => ⟨?_, fun id => ?_⟩, fun pool hpool honline => hpool.contract honline⟩
  · exact (Reachable.fixed pool).contract trivial
  · refine (offers_fixed_iff pool id).trans (exists_congr fun address => ?_)
    exact FixedPool.address_eq_ok_iff

/-- A pool that has made five ports, of which two were deleted by a cleanup and one by an operator
before the last was made. -/
def worn : DynamicPool :=
  let externals : Block :=
    { base := Ipv4.ofNat 0xC6336440, length := 28, length_le := by decide, aligned := by decide }
  let internals : Block :=
    { base := Ipv4.ofNat 0x0A000120, length := 27, length_le := by decide, aligned := by decide }
  [.provision, .provision, .provision, .provision, .clean ["port-1", "port-3"], .remove "port-1",
    .provision].foldl DynamicPool.change (DynamicPool.empty externals internals none)

/-- The worn pool has a history. -/
theorem reachable_worn : (Pool.dynamic worn).Reachable := by
  simp only [worn, List.foldl_cons, List.foldl_nil, ← change_dynamic]
  iterate 7 apply Reachable.change
  exact .empty _ _ _

/-- The worn pool is what its callers rely on: it has the third and the fifth port with their
addresses, keeps the one of them that is in use through a cleanup, and knows nothing of the second
port any more. -/
theorem contract_kept_worn :
    Contract (Pool.dynamic worn) ∧
      PortPool.available (Pool.dynamic worn) = .ok ["port-3", "port-5"] ∧
      PortPool.external (Pool.dynamic worn) "port-3" = .ok { ip := "198.51.100.67" } ∧
      PortPool.internal (Pool.dynamic worn) "port-5" = .ok "10.0.1.37" ∧
      PortPool.hasPort (Pool.dynamic worn) "port-2" = .ok false ∧
      ∃ cleaned, PortPool.clean (Pool.dynamic worn) ["port-5"] = .ok cleaned ∧
        PortPool.hasPort cleaned "port-5" = .ok true := by
  have hcontract := contract_kept.2 worn reachable_worn (by decide +kernel)
  refine ⟨hcontract, by decide +kernel, by decide +kernel, by decide +kernel, by decide +kernel, ?_⟩
  obtain ⟨cleaned, hclean, hkept⟩ := hcontract.clean ["port-5"]
  exact ⟨cleaned, hclean, hkept "port-5" (List.mem_singleton_self _) (by decide +kernel)⟩

end Pool

end Balancer
