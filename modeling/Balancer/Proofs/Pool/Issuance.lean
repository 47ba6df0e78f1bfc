import Mathlib
import Balancer.Proofs.Pool.Supply

/-!
# What a dynamic pool issues

A dynamic pool issues identifiers and addresses in the order of their numbers, whatever fails or is
deleted in between: the ports that were made in a history are those with the numbers from one on,
none left out. Each port is issued once, its addresses lie behind the bases of the blocks, and a
port that was deleted by cleaning is logged once and does not come back. What only reads the pool
leaves it as it is, so that a history lists the changes alone.
-/

namespace Balancer

/-- A port as it was made: the identifier in the answer, and the addresses that the pool had for it
directly afterwards. -/
structure Issue where
  id : String
  addresses : Option PortAddresses
  deriving DecidableEq

namespace DynamicPool

/-- The port that a change makes, if it makes one. -/
def issue? (pool : DynamicPool) : PoolChange → Option Issue
  | .provision =>
    match pool.provision with
    | (.ok id, rest) => some { id, addresses := rest.ports[id]? }
    | (.error _, _) => none
  | .remove _ | .clean _ | .setUnavailable _ => none

/-- The ports that a cleaning deletes, in ascending order: those that the pool had before and has
not afterwards. -/
def cleaned (pool : DynamicPool) : PoolChange → List String
  | .clean used => pool.ports.keys.filter fun id => decide (id ∉ (pool.change (.clean used)).ports)
  | .provision | .remove _ | .setUnavailable _ => []

/-- The pool after a history of changes, which lists the latest first. -/
def through (start : DynamicPool) : List PoolChange → DynamicPool
  | [] => start
  | change :: earlier => (start.through earlier).change change

/-- The ports that were made in a history, in the order in which they were made. -/
def issues (start : DynamicPool) : List PoolChange → List Issue
  | [] => []
  | change :: earlier => start.issues earlier ++ ((start.through earlier).issue? change).toList

/-- The ports that cleaning deleted in a history, in the order in which they were deleted. -/
def cleanings (start : DynamicPool) : List PoolChange → List String
  | [] => []
  | change :: earlier => start.cleanings earlier ++ (start.through earlier).cleaned change

/-- The port with a number, over an external and an internal block. -/
def numberedIssue (external internal : Block) (number : Nat) : Issue :=
  { id := portId number
    addresses := some
      { external := Ipv4.ofNat (external.base.value + number)
        internal := Ipv4.ofNat (internal.base.value + number) } }

variable {external internal : Block} {capacity : Option Nat} {pool : DynamicPool}

/-- A change that makes a port makes the one with the next number, and the others leave the number
alone. -/
theorem Supplied.issue?_cases (h : pool.Supplied external internal capacity) (change : PoolChange) :
    pool.issue? change = none ∧ (pool.change change).nextId = pool.nextId ∨
      pool.issue? change = some (numberedIssue external internal pool.nextId) ∧
        (pool.change change).nextId = pool.nextId + 1 := by
  cases change with
  | provision =>
    have hprovisioned := pool.provisioned
    simp only [issue?, DynamicPool.change]
    generalize pool.provision = result at hprovisioned ⊢
    cases hprovisioned with
    | made _ _ _ hinternal =>
      have hnext : pool.externals.next = pool.nextId :=
        h.sound.externals_next.resolve_right (by omega)
      refine Or.inr ⟨?_, rfl⟩
      simp [numberedIssue, h.externals_block, h.internals_block, hnext, h.sound.internals_next]
    | _ => exact Or.inl ⟨rfl, rfl⟩
  | clean used =>
    refine Or.inl ⟨rfl, ?_⟩
    rw [change_clean]
    split <;> rfl
  | remove id => exact Or.inl ⟨rfl, rfl⟩
  | setUnavailable unavailable => exact Or.inl ⟨rfl, rfl⟩

/-- A history keeps to what is left of the blocks. -/
theorem supplied_through (external internal : Block) (capacity : Option Nat)
    (history : List PoolChange) :
    ((empty external internal capacity).through history).Supplied external internal capacity := by
  induction history with
  | nil => exact supplied_empty external internal capacity
  | cons change earlier ih => exact ih.change change

/-- The ports that were made in a history are those with the numbers from one on. -/
theorem issues_eq (external internal : Block) (capacity : Option Nat) (history : List PoolChange) :
    ∃ count, ((empty external internal capacity).through history).nextId = count + 1 ∧
      (empty external internal capacity).issues history =
        (List.range' 1 count).map (numberedIssue external internal) := by
  induction history with
  | nil => exact ⟨0, rfl, rfl⟩
  | cons change earlier ih =>
    obtain ⟨count, hnext, hissues⟩ := ih
    have hsupplied := supplied_through external internal capacity earlier
    rcases hsupplied.issue?_cases change with ⟨hnone, hsame⟩ | ⟨hsome, hmoved⟩
    · refine ⟨count, hsame.trans hnext, ?_⟩
      rw [issues, hnone, hissues, Option.toList_none, List.append_nil]
    · refine ⟨count + 1, by rw [← hnext]; exact hmoved, ?_⟩
      rw [issues, hsome, hissues, hnext, List.range'_1_concat, List.map_append,
        Nat.add_comm count 1]
      rfl

/-- The ports that a pool has after it was cleaned within reach are those in use. -/
theorem mem_ports_clean (honline : pool.unavailable = false) (used : List String) (id : String) :
    id ∈ (pool.change (.clean used)).ports ↔ id ∈ pool.ports ∧ id ∈ used := by
  rw [change_clean, if_neg (by simp [honline])]
  simp [Std.ExtTreeMap.mem_filter]

/-- A pool out of reach is not cleaned. -/
theorem change_clean_of_unavailable (hoffline : pool.unavailable = true) (used : List String) :
    pool.change (.clean used) = pool := by
  rw [change_clean, if_pos hoffline]

/-- Cleaning a pool within reach deletes the ports that are not in use. -/
theorem mem_cleaned_iff (honline : pool.unavailable = false) (used : List String) (id : String) :
    id ∈ pool.cleaned (.clean used) ↔ id ∈ pool.ports ∧ id ∉ used := by
  rw [cleaned, List.mem_filter, Std.ExtTreeMap.mem_keys, decide_eq_true_eq, mem_ports_clean honline]
  tauto

/-- Exactly the deletions by cleaning are logged. -/
theorem deleted_change (pool : DynamicPool) (change : PoolChange) :
    (pool.change change).deleted = pool.deleted ++ pool.cleaned change := by
  cases change with
  | provision =>
    have hprovisioned := pool.provisioned
    simp only [DynamicPool.change, cleaned, List.append_nil]
    generalize pool.provision = result at hprovisioned ⊢
    cases hprovisioned with
    | _ => rfl
  | clean used =>
    cases honline : pool.unavailable with
    | true => simp [cleaned, change_clean_of_unavailable honline]
    | false =>
      have hunused : pool.cleaned (.clean used) =
          pool.ports.keys.filter fun id => decide (id ∉ used) := by
        refine List.filter_congr fun id hid => ?_
        rw [Std.ExtTreeMap.mem_keys] at hid
        simp [mem_ports_clean honline, hid]
      rw [hunused, change_clean, if_neg (by simp [honline])]
  | remove id => simp [DynamicPool.change, DynamicPool.remove, cleaned]
  | setUnavailable unavailable => simp [DynamicPool.change, cleaned]

/-- The log holds the deletions by cleaning in their order. -/
theorem deleted_through (external internal : Block) (capacity : Option Nat)
    (history : List PoolChange) :
    ((empty external internal capacity).through history).deleted =
      (empty external internal capacity).cleanings history := by
  induction history with
  | nil => rfl
  | cons change earlier ih => rw [through, deleted_change, ih, cleanings]

/-- What is known of the ports that were deleted by cleaning: each was made, is logged once, and is
gone. -/
structure Retired (pool : DynamicPool) : Prop where
  nodup : pool.deleted.Nodup
  gone : ∀ id ∈ pool.deleted, id ∉ pool.ports
  numbered : ∀ id ∈ pool.deleted, ∃ number, pool.Numbered number ∧ id = portId number

/-- A change that makes no port and logs nothing brings no port back. -/
theorem Retired.restrict {rest : DynamicPool} (h : pool.Retired)
    (hdeleted : rest.deleted = pool.deleted) (hnext : rest.nextId = pool.nextId)
    (hports : ∀ id, id ∈ rest.ports → id ∈ pool.ports) : rest.Retired where
  nodup := hdeleted ▸ h.nodup
  gone id hid hport := h.gone id (hdeleted ▸ hid) (hports id hport)
  numbered id hid := by
    rw [hdeleted] at hid
    obtain ⟨number, hnumber, rfl⟩ := h.numbered id hid
    exact ⟨number, ⟨hnumber.1, hnext ▸ hnumber.2⟩, rfl⟩

/-- A new port is none of those that were deleted, since its number is new. -/
theorem Retired.provision (h : pool.Retired) : pool.provision.2.Retired := by
  have hprovisioned := pool.provisioned
  generalize pool.provision = result at hprovisioned ⊢
  cases hprovisioned with
  | made =>
    refine ⟨h.nodup, fun id hid hport => ?_, fun id hid => ?_⟩
    · obtain ⟨number, hnumber, rfl⟩ := h.numbered id hid
      rcases Std.ExtTreeMap.mem_insert.mp hport with hnew | hold
      · have hsame := portId_injective (Std.LawfulEqOrd.compare_eq_iff_eq.mp hnew)
        exact absurd hnumber.2 (by omega)
      · exact h.gone _ hid hold
    · obtain ⟨number, hnumber, rfl⟩ := h.numbered id hid
      exact ⟨number, ⟨hnumber.1, Nat.lt_succ_of_lt hnumber.2⟩, rfl⟩
  | _ => exact h.restrict rfl rfl fun _ hport => hport

/-- Cleaning logs the ports that it deletes beside those that were gone before. -/
theorem Retired.clean (h : pool.Retired) (hsound : pool.Sound) (used : List String) :
    (pool.change (.clean used)).Retired := by
  cases honline : pool.unavailable with
  | true => rwa [change_clean_of_unavailable honline]
  | false =>
    have hcleaned := mem_cleaned_iff honline used
    have hnext : (pool.change (.clean used)).nextId = pool.nextId := by
      rw [change_clean, if_neg (by simp [honline])]
    have hkeys : (pool.cleaned (.clean used)).Nodup := Std.ExtTreeMap.nodup_keys.filter _
    refine ⟨?_, fun id hid hport => ?_, fun id hid => ?_⟩
    · rw [deleted_change]
      refine h.nodup.append hkeys fun id hold hnew => ?_
      exact h.gone id hold ((hcleaned id).mp hnew).1
    · rw [mem_ports_clean honline] at hport
      rw [deleted_change, List.mem_append, hcleaned] at hid
      rcases hid with hold | hnew
      · exact h.gone id hold hport.1
      · exact hnew.2 hport.2
    · rw [deleted_change, List.mem_append, hcleaned] at hid
      unfold Numbered
      rw [hnext]
      rcases hid with hold | hnew
      · exact h.numbered id hold
      · obtain ⟨number, hnumber, hid, -⟩ :=
          hsound.numbered id _ (Std.ExtTreeMap.getElem?_eq_some_getElem hnew.1)
        exact ⟨number, hnumber, hid⟩

/-- No change brings a deleted port back. -/
theorem Retired.change (h : pool.Retired) (hsound : pool.Sound) (change : PoolChange) :
    (pool.change change).Retired := by
  cases change with
  | provision => exact h.provision
  | remove id =>
    exact h.restrict rfl rfl fun other hother => Std.ExtTreeMap.mem_of_mem_erase hother
  | clean used => exact h.clean hsound used
  | setUnavailable unavailable => exact h.restrict rfl rfl fun _ hport => hport

/-- No deleted port comes back in a history. -/
theorem retired_through (external internal : Block) (capacity : Option Nat)
    (history : List PoolChange) :
    ((empty external internal capacity).through history).Retired := by
  induction history with
  | nil => exact ⟨List.nodup_nil, fun _ hid => absurd hid List.not_mem_nil,
      fun _ hid => absurd hid List.not_mem_nil⟩
  | cons change earlier ih =>
    exact ih.change (supplied_through external internal capacity earlier).sound change

/-- What it means that a pool over two blocks with a capacity issues nothing twice, where `issues`
are the ports that were made and `cleanings` those that cleaning deleted, in their order. The
identifiers, the external and the internal addresses are all different. The addresses lie in the
blocks behind their bases, one further for each port, with no carry beyond 32 bits. There are fewer
ports than the smaller block has addresses, and never more at a time than the capacity. The log of
the pool has each deleted port once, in order, and none that is there. -/
structure IssuesOnce (external internal : Block) (capacity : Option Nat) (issues : List Issue)
    (cleanings : List String) (pool : DynamicPool) : Prop where
  ids : (issues.map Issue.id).Nodup
  externals : (issues.map fun issue => issue.addresses.map PortAddresses.external).Nodup
  internals : (issues.map fun issue => issue.addresses.map PortAddresses.internal).Nodup
  addresses : ∀ place issue, issues[place]? = some issue →
    ∃ drawn, issue.addresses = some drawn ∧
      (external.contains drawn.external = true ∧ drawn.external ≠ external.base ∧
        drawn.external.value = external.base.value + (place + 1)) ∧
      (internal.contains drawn.internal = true ∧ drawn.internal ≠ internal.base ∧
        drawn.internal.value = internal.base.value + (place + 1))
  length_lt : issues.length < min external.size internal.size
  size_le : ∀ limit, capacity = some limit → pool.ports.size ≤ limit
  deleted : pool.deleted = cleanings
  deleted_nodup : pool.deleted.Nodup
  deleted_gone : ∀ id ∈ pool.deleted, id ∉ pool.ports
  nextId : pool.nextId = issues.length + 1
  next_le : pool.nextId ≤ word32Count ∧ pool.externals.next ≤ word32Count ∧
    pool.internals.next ≤ word32Count

/-- As many addresses as a block has behind its base are all different. -/
theorem nodup_addresses {block : Block} {count : Nat} (h : count < block.size) :
    ((List.range' 1 count).map fun number =>
      some (Ipv4.ofNat (block.base.value + number))).Nodup := by
  refine List.Nodup.map_on (fun number hnumber other hother heq => ?_) List.nodup_range'
  rw [List.mem_range'_1] at hnumber hother
  exact Block.eq_of_ofNat_eq (by omega) (by omega) (Option.some.inj heq)

/-- The port at a place among the first ones has the number after the place. -/
theorem eq_numberedIssue {count place : Nat} {issue : Issue}
    (h : ((List.range' 1 count).map (numberedIssue external internal))[place]? = some issue) :
    place < count ∧ issue = numberedIssue external internal (place + 1) := by
  obtain ⟨hlt, rfl⟩ := List.getElem?_eq_some_iff.mp h
  rw [List.length_map, List.length_range'] at hlt
  refine ⟨hlt, ?_⟩
  rw [List.getElem_map, List.getElem_range', Nat.one_mul, Nat.add_comm]

/-- A dynamic pool never issues anything twice, over whatever blocks, with whatever capacity, and
through whatever history of calls that succeed or fail and of ports that are deleted. -/
theorem issues_once (external internal : Block) (capacity : Option Nat)
    (history : List PoolChange) :
    IssuesOnce external internal capacity ((empty external internal capacity).issues history)
      ((empty external internal capacity).cleanings history)
      ((empty external internal capacity).through history) := by
  have hsupplied := supplied_through external internal capacity history
  have hretired := retired_through external internal capacity history
  obtain ⟨count, hnext, hissues⟩ := issues_eq external internal capacity history
  obtain ⟨hexternal, hinternal⟩ := hsupplied.nextId_le
  rw [hnext] at hexternal hinternal
  rw [hissues]
  refine
    { ids := ?_
      externals := ?_
      internals := ?_
      addresses := fun place issue hissue => ?_
      length_lt := ?_
      size_le := hsupplied.size_le
      deleted := deleted_through external internal capacity history
      deleted_nodup := hretired.nodup
      deleted_gone := hretired.gone
      nextId := ?_
      next_le := ⟨?_, ?_, ?_⟩ }
  · rw [List.map_map]
    exact List.Nodup.map portId_injective List.nodup_range'
  · rw [List.map_map]
    exact nodup_addresses hexternal
  · rw [List.map_map]
    exact nodup_addresses hinternal
  · obtain ⟨hplace, rfl⟩ := eq_numberedIssue hissue
    have hexternal' : place + 1 < external.size := by omega
    have hinternal' : place + 1 < internal.size := by omega
    exact ⟨_, rfl,
      ⟨Block.contains_ofNat hexternal', Block.ofNat_ne_base place.succ_pos hexternal',
        Block.value_ofNat hexternal'⟩,
      ⟨Block.contains_ofNat hinternal', Block.ofNat_ne_base place.succ_pos hinternal',
        Block.value_ofNat hinternal'⟩⟩
  · rw [List.length_map, List.length_range']
    exact lt_min hexternal hinternal
  · rw [hnext, List.length_map, List.length_range']
  · exact hsupplied.nextId_le.1.trans external.size_le
  · exact hsupplied.externals_le.trans external.size_le
  · exact hsupplied.internals_le.trans internal.size_le

end DynamicPool

end Balancer
