import Mathlib
import Balancer.Proofs.Address.Written
import Balancer.Proofs.Pool.History

/-!
# Pools that answer

A pool that can be reached answers which ports it has, and what the addresses of its ports are. It
makes a port or is exhausted. Making a port leaves the other ports where they are.
-/

namespace Balancer

/-- A fixed pool finds an address by its written form, and by no other text. -/
theorem FixedPool.address_eq_ok_iff {pool : FixedPool} {portId : String} {address : Ipv4} :
    pool.address portId = .ok address ↔ address ∈ pool.addresses ∧ address.text = portId := by
  have hfound : pool.address portId = .ok address ↔ pool.find? portId = some address := by
    unfold FixedPool.address
    cases pool.find? portId with
    | none => simp
    | some found => simp
  rw [hfound, find?, Option.filter_eq_some_iff, decide_eq_true_eq, and_comm]
  refine and_congr_right fun _ => ⟨Ipv4.text_of_ofText?, ?_⟩
  rintro rfl
  exact address.ofText?_text

/-- A dynamic pool finds the addresses of the ports that it has, as long as it can be reached. -/
theorem DynamicPool.addresses_eq_ok_iff {pool : DynamicPool} {portId : String}
    {addresses : PortAddresses} :
    pool.addresses portId = .ok addresses ↔
      pool.unavailable = false ∧ pool.ports[portId]? = some addresses := by
  unfold DynamicPool.addresses whenReachable
  cases pool.unavailable with
  | true => simp
  | false =>
    cases pool.ports[portId]? with
    | none => simp
    | some found => simp

namespace Pool

/-- Whether a pool can be reached. -/
def Online : Pool → Prop
  | .fixed _ => True
  | .dynamic pool => pool.unavailable = false

instance (pool : Pool) : Decidable pool.Online :=
  match pool with
  | .fixed _ => .isTrue trivial
  | .dynamic pool => inferInstanceAs (Decidable (pool.unavailable = false))

/-- Whether a pool answers that it has a port. -/
def Offers (pool : Pool) (portId : String) : Prop :=
  PortPool.hasPort pool portId = .ok true

variable {pool rest : Pool} {portId : String}

/-- A pool that can be reached lists its ports. -/
theorem ports_of_available {portIds : List String}
    (h : PortPool.available pool = .ok portIds) : portIds = pool.ports := by
  cases pool with
  | fixed pool => exact (Except.ok.inj h).symm
  | dynamic pool =>
    change pool.whenReachable _ = _ at h
    unfold DynamicPool.whenReachable at h
    split at h
    · cases h
    · exact (Except.ok.inj h).symm

/-- In a pool that could be cleaned the ports can be listed. -/
theorem available_of_clean {cleaned : Pool} {used : List String}
    (h : PortPool.clean pool used = .ok cleaned) :
    PortPool.available cleaned = .ok cleaned.ports := by
  cases pool with
  | fixed pool =>
    cases h
    rfl
  | dynamic pool =>
    obtain ⟨kept, hkept, rfl⟩ := map_eq_ok (x := pool.clean used) h
    unfold DynamicPool.clean DynamicPool.whenReachable at hkept
    split at hkept
    · cases hkept
    · next honline =>
      cases hkept
      change DynamicPool.whenReachable _ _ = _
      rw [DynamicPool.whenReachable, if_neg honline]
      rfl

/-- A pool that can be reached has a port or has it not. -/
theorem Online.hasPort_cases (h : pool.Online) (portId : String) :
    pool.Offers portId ∨ PortPool.hasPort pool portId = .ok false := by
  unfold Offers
  cases pool with
  | fixed pool =>
    change (Except.ok _ : Except PoolError Bool) = _ ∨ (Except.ok _ : Except PoolError Bool) = _
    cases (pool.find? portId).isSome
    · exact Or.inr rfl
    · exact Or.inl rfl
  | dynamic pool =>
    change pool.unavailable = false at h
    simp only [PortPool.hasPort, DynamicPool.whenReachable, h, Bool.false_eq_true, if_false]
    cases decide (portId ∈ pool.ports)
    · exact Or.inr rfl
    · exact Or.inl rfl

/-- A dynamic pool has exactly the ports that it lists, as long as it can be reached. -/
theorem offers_dynamic_iff (pool : DynamicPool) (portId : String) :
    (Pool.dynamic pool).Offers portId ↔ pool.unavailable = false ∧ portId ∈ pool.ports := by
  unfold Offers
  change pool.whenReachable _ = _ ↔ _
  unfold DynamicPool.whenReachable
  cases pool.unavailable with
  | true => simp
  | false => simp

/-- A fixed pool has exactly the ports that it finds an address for. -/
theorem offers_fixed_iff (pool : FixedPool) (portId : String) :
    (Pool.fixed pool).Offers portId ↔ ∃ address, pool.address portId = .ok address := by
  unfold Offers FixedPool.address
  change (Except.ok _ : Except PoolError Bool) = _ ↔ _
  cases pool.find? portId with
  | none => simp
  | some found => simp

/-- A pool that can be reached has exactly the ports that it lists. -/
theorem Online.offers_iff (h : pool.Online) : pool.Offers portId ↔ portId ∈ pool.ports := by
  cases pool with
  | fixed pool =>
    simp only [offers_fixed_iff, FixedPool.address_eq_ok_iff, ports, FixedPool.ports, List.mem_map]
  | dynamic pool =>
    rw [offers_dynamic_iff, ports, Std.ExtTreeMap.mem_keys]
    exact and_iff_right h

/-- A dynamic pool has exactly the ports that it finds addresses for. -/
theorem offers_dynamic_iff_addresses (pool : DynamicPool) (portId : String) :
    (Pool.dynamic pool).Offers portId ↔ ∃ addresses, pool.addresses portId = .ok addresses := by
  simp only [offers_dynamic_iff, DynamicPool.addresses_eq_ok_iff, exists_and_left,
    Std.ExtTreeMap.mem_iff_isSome_getElem?, Option.isSome_iff_exists]

/-- A pool has exactly the ports that it has an external address for. -/
theorem offers_iff_external :
    pool.Offers portId ↔ ∃ address, PortPool.external pool portId = .ok address := by
  cases pool with
  | fixed pool => exact (offers_fixed_iff pool portId).trans exists_map_eq_ok.symm
  | dynamic pool => exact (offers_dynamic_iff_addresses pool portId).trans exists_map_eq_ok.symm

/-- A pool has exactly the ports that it has an internal address for. -/
theorem offers_iff_internal :
    pool.Offers portId ↔ ∃ address, PortPool.internal pool portId = .ok address := by
  cases pool with
  | fixed pool => exact (offers_fixed_iff pool portId).trans exists_map_eq_ok.symm
  | dynamic pool => exact (offers_dynamic_iff_addresses pool portId).trans exists_map_eq_ok.symm

/-- What provisioning does to a dynamic pool that can be reached: it makes a new port beside the
others, or it is exhausted and keeps its ports. -/
theorem provision_dynamic (pool : DynamicPool) (h : pool.unavailable = false) :
    pool.provision.2.unavailable = false ∧
      (∀ portId ∈ pool.ports, portId ∈ pool.provision.2.ports) ∧
        ((∃ portId, pool.provision.1 = .ok portId ∧ portId ∈ pool.provision.2.ports) ∨
          ∃ error, pool.provision.1 = .error error ∧ error.isExhausted = true) := by
  have hprovisioned := pool.provisioned
  generalize pool.provision = result at hprovisioned ⊢
  cases hprovisioned with
  | offline hoffline => exact absurd (h.symm.trans hoffline) Bool.false_ne_true
  | full => exact ⟨h, fun _ hport => hport, Or.inr ⟨_, rfl, rfl⟩⟩
  | noExternal => exact ⟨h, fun _ hport => hport, Or.inr ⟨_, rfl, rfl⟩⟩
  | noInternal => exact ⟨h, fun _ hport => hport, Or.inr ⟨_, rfl, rfl⟩⟩
  | made =>
    refine ⟨h, fun portId hport => ?_, Or.inl ⟨_, rfl, ?_⟩⟩
    · exact Std.ExtTreeMap.mem_insert.mpr (Or.inr hport)
    · exact Std.ExtTreeMap.mem_insert_self

/-- Making a port takes none away. -/
theorem mem_ports_provision (h : portId ∈ pool.ports) :
    portId ∈ (PortPool.provision pool).2.ports := by
  cases pool with
  | fixed pool => exact h
  | dynamic pool =>
    change portId ∈ pool.provision.2.ports.keys
    have hmem : portId ∈ pool.ports := Std.ExtTreeMap.mem_keys.mp h
    rw [Std.ExtTreeMap.mem_keys]
    have hprovisioned := pool.provisioned
    generalize pool.provision = result at hprovisioned ⊢
    cases hprovisioned with
    | made => exact Std.ExtTreeMap.mem_insert.mpr (Or.inr hmem)
    | _ => exact hmem

/-- Provisioning leaves a pool within reach. -/
theorem Online.provision (h : pool.Online) : (PortPool.provision pool).2.Online := by
  cases pool with
  | fixed pool => trivial
  | dynamic pool => exact (provision_dynamic pool h).1

/-- Provisioning leaves the ports of a pool where they are. -/
theorem Offers.provision (h : pool.Offers portId) : (PortPool.provision pool).2.Offers portId := by
  cases pool with
  | fixed pool => exact h
  | dynamic pool =>
    obtain ⟨honline, hport⟩ := (offers_dynamic_iff pool portId).mp h
    obtain ⟨honline', hports, -⟩ := provision_dynamic pool honline
    exact (offers_dynamic_iff _ portId).mpr ⟨honline', hports portId hport⟩

/-- A port that was made is there. -/
theorem Online.offers_of_provision (h : pool.Online)
    (hmade : PortPool.provision pool = (.ok portId, rest)) : rest.Offers portId := by
  cases pool with
  | fixed pool => cases hmade
  | dynamic pool =>
    obtain ⟨honline, -, hanswer⟩ := provision_dynamic pool h
    obtain ⟨hok, rfl⟩ := Prod.mk.inj hmade
    rcases hanswer with ⟨made, hmade', hport⟩ | ⟨error, herror, -⟩
    · cases hok.symm.trans hmade'
      exact (offers_dynamic_iff _ portId).mpr ⟨honline, hport⟩
    · cases hok.symm.trans herror

/-- A pool that can be reached refuses to make a port only if it is exhausted. -/
theorem Online.isExhausted_of_provision (h : pool.Online) {error : PoolError}
    (hrefused : (PortPool.provision pool).1 = .error error) : error.isExhausted = true := by
  cases pool with
  | fixed pool =>
    cases hrefused
    rfl
  | dynamic pool =>
    obtain ⟨-, -, hanswer⟩ := provision_dynamic pool h
    rcases hanswer with ⟨made, hmade, -⟩ | ⟨error', herror, hexhausted⟩
    · cases hrefused.symm.trans hmade
    · cases hrefused.symm.trans herror
      exact hexhausted

/-- The external address of a port stays the same while another port is made. -/
theorem Offers.external_provision (h : pool.Offers portId) (hpool : pool.Sound)
    {address : ExternalAddress} (haddress : PortPool.external pool portId = .ok address) :
    PortPool.external (PortPool.provision pool).2 portId = .ok address := by
  obtain ⟨address', haddress'⟩ := offers_iff_external.mp h.provision
  obtain ⟨internal, hgiven⟩ := assigns_of_external hpool haddress
  obtain ⟨internal', hgiven'⟩ := assigns_of_external (hpool.change .provision) haddress'
  have hkept := hpool.keepsAddresses .provision _ _ _ hgiven
  rw [haddress', (hkept.unique hgiven').1]

/-- No port has an empty identifier. -/
theorem Offers.ne_empty (h : pool.Offers portId) (hpool : pool.Sound) : portId ≠ "" := by
  rintro rfl
  cases pool with
  | fixed pool =>
    have hfound : (pool.find? "").isSome = true := Except.ok.inj h
    have hnone : Ipv4.ofText? "" = none := by decide
    rw [FixedPool.find?, hnone] at hfound
    cases hfound
  | dynamic pool =>
    obtain ⟨-, hport⟩ := (offers_dynamic_iff pool "").mp h
    obtain ⟨number, -, hid, -⟩ :=
      hpool.numbered "" _ (Std.ExtTreeMap.getElem?_eq_some_getElem hport)
    have hempty := (String.append_eq_empty_iff.mp hid.symm).1
    exact absurd hempty (by decide)

end Pool

end Balancer
