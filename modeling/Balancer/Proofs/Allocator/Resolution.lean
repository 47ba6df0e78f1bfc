import Mathlib
import Balancer.Proofs.Allocator.History

/-!
# Which port a service gets

A service gets the port tried first if the pool has it and no other service holds a requested number
there. Otherwise it gets the least of the other tracked ports on which this is so, and only where
there is none the pool is asked for a port. That the search counts the service's own numbers as
taken makes no difference: they are all on the port tried first, which the search skips.

How often the pool is asked is seen with a pool that counts it.
-/

namespace Balancer

/-- A pool that counts how often it was asked to make a port. -/
structure Metered (π : Type) where
  pool : π
  asked : Nat := 0

instance {π : Type} [PortPool π] : PortPool (Metered π) where
  provision metered :=
    ((PortPool.provision metered.pool).1,
      { pool := (PortPool.provision metered.pool).2, asked := metered.asked + 1 })
  hasPort metered := PortPool.hasPort metered.pool
  available metered := PortPool.available metered.pool
  clean metered used := (PortPool.clean metered.pool used).map fun pool => { metered with pool }
  external metered := PortPool.external metered.pool
  internal metered := PortPool.internal metered.pool

namespace Allocator

variable {π : Type} [PortPool π]

/-- No other service holds one of the requested numbers on a port. -/
def OpenTo (allocator : Allocator) (id : ServiceId) (ports : List TransportPort)
    (portId : String) : Prop :=
  ∀ port ∈ ports, ∀ holder, allocator.Holds portId port.number holder → holder = id

/-- The port tried first is there and open to the service. -/
structure Keeps (allocator : Allocator) (pool : π) (id : ServiceId) (ports : List TransportPort)
    (preferred : Option String) (portId : String) : Prop where
  candidate : allocator.candidate id preferred = some portId
  present : PortPool.hasPort pool portId = .ok true
  openTo : allocator.OpenTo id ports portId

/-- The tracked ports that are open to a service, besides the port tried first. -/
def alternatives (allocator : Allocator) (id : ServiceId) (ports : List TransportPort)
    (preferred : Option String) : Set String :=
  {portId | portId ∈ allocator.tracked ∧ some portId ≠ allocator.candidate id preferred ∧
    allocator.OpenTo id ports portId}

/-- The rule by which a service gets a port, with the pool afterwards. -/
inductive Resolves (allocator : Allocator) (pool : π) (id : ServiceId) (ports : List TransportPort)
    (preferred : Option String) : String → π → Prop where
  | kept {portId : String} (hkeeps : allocator.Keeps pool id ports preferred portId) :
      Resolves allocator pool id ports preferred portId pool
  | moved {portId : String} (hleaves : ∀ other, ¬allocator.Keeps pool id ports preferred other)
      (hleast : IsLeast (allocator.alternatives id ports preferred) portId) :
      Resolves allocator pool id ports preferred portId pool
  | made {portId : String} {rest : π}
      (hleaves : ∀ other, ¬allocator.Keeps pool id ports preferred other)
      (hnone : allocator.alternatives id ports preferred = ∅)
      (hmade : PortPool.provision pool = (.ok portId, rest))
      (hnew : portId ∉ allocator.tracked) :
      Resolves allocator pool id ports preferred portId rest

/-- What binding a service to a port does: its record and its numbers are as requested, those of the
other services stay, and at most the port is newly tracked. -/
structure Binds (before : Allocator) (id : ServiceId) (ports : List TransportPort)
    (portId : String) (after : Allocator) : Prop where
  record : after.records[id]? = some { portId, ports }
  holds : ∀ otherPort number,
    after.Holds otherPort number id ↔ otherPort = portId ∧ number ∈ ports.map (·.number)
  recordOf : ∀ other, other ≠ id → after.records[other]? = before.records[other]?
  holdsOf : ∀ other, other ≠ id → ∀ otherPort number,
    after.Holds otherPort number other ↔ before.Holds otherPort number other
  tracked : ∀ otherPort,
    otherPort ∈ after.tracked ↔ otherPort = portId ∨ otherPort ∈ before.tracked

variable {allocator : Allocator} {id : ServiceId} {ports : List TransportPort}
  {preferred : Option String} {portId : String}

/-- Requested numbers fit a port that is open to the service, and no other. -/
theorem fits_iff_openTo (allocator : Allocator) (id : ServiceId) (ports : List TransportPort)
    (portId : String) :
    (allocator.occupancy portId).fits ports (some id) = true ↔
      allocator.OpenTo id ports portId := by
  simp only [Occupancy.fits_iff, OpenTo, holds_iff, Option.some.injEq]

/-- The ports at which the search stops. -/
def vacant (allocator : Allocator) (ports : List TransportPort) (skip : Option String) :
    Set String :=
  {portId | portId ∈ allocator.tracked ∧ some portId ≠ skip ∧
    (allocator.occupancy portId).fits ports none = true}

/-- An entry of the tracked ports at which the search stops. -/
theorem mem_vacant_iff {entry : String × Occupancy} (hentry : entry ∈ allocator.tracked.toList)
    (skip : Option String) :
    entry.1 ∈ allocator.vacant ports skip ↔
      (decide (some entry.1 ≠ skip) && entry.2.fits ports none) = true := by
  have hfound := Std.ExtTreeMap.mem_toList_iff_getElem?_eq_some.mp hentry
  have htracked : entry.1 ∈ allocator.tracked := mem_of_getElem?_eq_some hfound
  have hoccupancy : allocator.occupancy entry.1 = entry.2 := by
    rw [occupancy, hfound, Option.getD_some]
  simp only [vacant, Set.mem_ofPred_eq, htracked, true_and, hoccupancy, Bool.and_eq_true,
    decide_eq_true_eq]

/-- The search stops at the least port at which it can. -/
theorem isLeast_of_firstFit {skip : Option String}
    (h : allocator.firstFit ports skip = some portId) :
    IsLeast (allocator.vacant ports skip) portId := by
  obtain ⟨entry, hfind, rfl⟩ := Option.map_eq_some_iff.mp h
  obtain ⟨hstops, passed, rest, hlist, hpassed⟩ := List.find?_eq_some_iff_append.mp hfind
  have hentry : entry ∈ allocator.tracked.toList := by simp [hlist]
  refine ⟨(mem_vacant_iff hentry skip).mpr hstops, fun other hother => ?_⟩
  obtain ⟨occupancy, hfound⟩ := Option.isSome_iff_exists.mp
    (Std.ExtTreeMap.mem_iff_isSome_getElem?.mp hother.1)
  have hmem := Std.ExtTreeMap.mem_toList_iff_getElem?_eq_some.mpr hfound
  have hvacant := (mem_vacant_iff hmem skip).mp hother
  -- The entries are in ascending order, and the search passed those before the one that it found.
  have hordered : allocator.tracked.toList.Pairwise fun a b => compare a.1 b.1 = .lt :=
    Std.ExtTreeMap.ordered_keys_toList
  rw [hlist] at hmem hordered
  rcases List.mem_append.mp hmem with hbefore | hafter
  · have hrefused := hpassed _ hbefore
    rw [hvacant] at hrefused
    cases hrefused
  · rcases List.mem_cons.mp hafter with heq | hlater
    · exact (congrArg Prod.fst heq).ge
    · have hlt := (List.pairwise_cons.mp (List.pairwise_append.mp hordered).2.1).1 _ hlater
      exact (compareOfLessAndEq_eq_lt.mp hlt : entry.1 < other).le

/-- The search finds nothing only where there is nothing at which it could stop. -/
theorem vacant_eq_empty_of_firstFit {skip : Option String}
    (h : allocator.firstFit ports skip = none) : allocator.vacant ports skip = ∅ := by
  rw [Set.eq_empty_iff_forall_notMem]
  intro other hother
  obtain ⟨occupancy, hfound⟩ := Option.isSome_iff_exists.mp
    (Std.ExtTreeMap.mem_iff_isSome_getElem?.mp hother.1)
  have hmem := Std.ExtTreeMap.mem_toList_iff_getElem?_eq_some.mpr hfound
  exact List.find?_eq_none.mp (Option.map_eq_none_iff.mp h) _ hmem
    ((mem_vacant_iff hmem skip).mp hother)

/-- A service holds numbers only on the port that is tried first for it. -/
theorem Exact.candidate_of_holds (hexact : allocator.Exact) {number : UInt16}
    (h : allocator.Holds portId number id) (preferred : Option String) :
    allocator.candidate id preferred = some portId := by
  obtain ⟨record, hrecord, rfl, -⟩ := (hexact portId number id).mp h
  simp only [candidate, hrecord]

/-- The search stops at the alternatives: on a port other than the one tried first the service holds
nothing, so whoever holds a number there is another one. -/
theorem Exact.vacant_eq (hexact : allocator.Exact) (id : ServiceId) (ports : List TransportPort)
    (preferred : Option String) :
    allocator.vacant ports (allocator.candidate id preferred) =
      allocator.alternatives id ports preferred := by
  ext other
  simp only [vacant, alternatives, Set.mem_ofPred_eq]
  refine and_congr_right fun _ => and_congr_right fun hother => ?_
  rw [Occupancy.fits_iff]
  constructor
  · intro hfits port hport holder hholds
    cases hfits port hport holder ((allocator.holds_iff _ _ _).mp hholds)
  · intro hopen port hport holder hholder
    have hholds := (allocator.holds_iff _ _ _).mpr hholder
    cases hopen port hport holder hholds
    exact absurd (hexact.candidate_of_holds hholds preferred).symm hother

/-- A service is placed on the port tried first, or the pool cannot say whether it has it, or the
search begins behind it. -/
theorem place_cases (allocator : Allocator) (pool : π) (id : ServiceId)
    (ports : List TransportPort) (preferred : Option String) :
    (∃ portId, allocator.Keeps pool id ports preferred portId ∧
      allocator.place pool id ports preferred = (.ok (.present portId), pool)) ∨
    (∃ portId cause, PortPool.hasPort pool portId = .error cause ∧
      allocator.place pool id ports preferred = (.error (.pool cause), pool)) ∨
    ((∀ portId, ¬allocator.Keeps pool id ports preferred portId) ∧
      allocator.place pool id ports preferred =
        allocator.search pool ports (allocator.candidate id preferred)) := by
  cases hcandidate : allocator.candidate id preferred with
  | none =>
    refine Or.inr (Or.inr ⟨fun portId hkeeps => ?_, by simp only [place, hcandidate]⟩)
    cases hcandidate.symm.trans hkeeps.candidate
  | some portId =>
    cases hpresent : PortPool.hasPort pool portId with
    | error cause =>
      refine Or.inr (Or.inl ⟨portId, cause, hpresent, ?_⟩)
      simp only [place, hcandidate, accepts, hpresent, Except.map]
    | ok present =>
      have haccepts : allocator.accepts pool id ports portId =
          .ok (present && (allocator.occupancy portId).fits ports (some id)) := by
        simp only [accepts, hpresent, Except.map]
      cases hboth : present && (allocator.occupancy portId).fits ports (some id) with
      | true =>
        obtain ⟨rfl, hfits⟩ := Bool.and_eq_true_iff.mp hboth
        refine Or.inl ⟨portId, ⟨hcandidate, hpresent, ?_⟩, ?_⟩
        · exact (allocator.fits_iff_openTo id ports portId).mp hfits
        · simp only [place, hcandidate, haccepts, hboth]
      | false =>
        refine Or.inr (Or.inr ⟨fun other hkeeps => ?_, ?_⟩)
        · cases hcandidate.symm.trans hkeeps.candidate
          cases Except.ok.inj (hpresent.symm.trans hkeeps.present)
          have hfits := (allocator.fits_iff_openTo id ports portId).mpr hkeeps.openTo
          rw [hfits] at hboth
          cases hboth
        · simp only [place, hcandidate, haccepts, hboth]

/-- A placement follows the rule. -/
theorem Exact.resolves_of_place (hexact : allocator.Exact) {pool rest : π}
    (hfresh : ∀ portId rest, PortPool.provision pool = (.ok portId, rest) →
      portId ∉ allocator.tracked)
    {placement : Placement}
    (h : allocator.place pool id ports preferred = (.ok placement, rest)) :
    allocator.Resolves pool id ports preferred placement.portId rest := by
  rcases allocator.place_cases pool id ports preferred with
    ⟨portId, hkeeps, heq⟩ | ⟨-, cause, -, heq⟩ | ⟨hleaves, heq⟩
  · rw [heq] at h
    cases h
    exact .kept hkeeps
  · rw [heq] at h
    cases h
  · rw [heq] at h
    unfold search at h
    split at h
    · next portId hfirst =>
      cases h
      have hleast := isLeast_of_firstFit hfirst
      rw [hexact.vacant_eq] at hleast
      exact .moved hleaves hleast
    · next hnone =>
      have hempty := vacant_eq_empty_of_firstFit hnone
      rw [hexact.vacant_eq] at hempty
      unfold provision at h
      split at h
      · next portId made hmade =>
        cases h
        exact .made hleaves hempty hmade (hfresh _ _ hmade)
      · cases h

/-- The pool is asked for a port only if the service leaves the port tried first and there is no
other one for it. -/
theorem Exact.pool_place (hexact : allocator.Exact) (pool : π) (id : ServiceId)
    (ports : List TransportPort) (preferred : Option String) :
    (allocator.place pool id ports preferred).2 = pool ∨
      (∀ portId, ¬allocator.Keeps pool id ports preferred portId) ∧
        allocator.alternatives id ports preferred = ∅ ∧
        (allocator.place pool id ports preferred).2 = (PortPool.provision pool).2 := by
  rcases allocator.place_cases pool id ports preferred with
    ⟨portId, -, heq⟩ | ⟨-, cause, -, heq⟩ | ⟨hleaves, heq⟩
  · exact Or.inl (congrArg Prod.snd heq)
  · exact Or.inl (congrArg Prod.snd heq)
  · rw [heq]
    cases hfirst : allocator.firstFit ports (allocator.candidate id preferred) with
    | some portId =>
      left
      simp only [search, hfirst]
    | none =>
      have hempty := vacant_eq_empty_of_firstFit hfirst
      rw [hexact.vacant_eq] at hempty
      refine Or.inr ⟨hleaves, hempty, ?_⟩
      simp only [search, hfirst, provision]
      split
      · next hmade => rw [hmade]
      · next hrefused => rw [hrefused]

/-- Mapping a service is placing it and binding it to the port. -/
theorem map_eq_place (allocator : Allocator) (pool : π) (id : ServiceId)
    (ports : List TransportPort) (preferred : Option String) :
    allocator.map pool id ports preferred =
      ((allocator.place pool id ports preferred).1.map fun placement =>
          (placement.portId, (allocator.prepare placement).bind id ports placement.portId),
        (allocator.place pool id ports preferred).2) := by
  unfold map
  rcases allocator.place pool id ports preferred with ⟨error | placement, rest⟩
  · rfl
  · rfl

/-- Counting changes nothing about the placement. -/
theorem place_metered (allocator : Allocator) (metered : Metered π) (id : ServiceId)
    (ports : List TransportPort) (preferred : Option String) :
    (allocator.place metered id ports preferred).1 =
        (allocator.place metered.pool id ports preferred).1 ∧
      (allocator.place metered id ports preferred).2.pool =
        (allocator.place metered.pool id ports preferred).2 := by
  have hsearch (skip : Option String) :
      (allocator.search metered ports skip).1 = (allocator.search metered.pool ports skip).1 ∧
        (allocator.search metered ports skip).2.pool =
          (allocator.search metered.pool ports skip).2 := by
    unfold search
    split
    · exact ⟨rfl, rfl⟩
    · simp only [provision]
      rcases hprovision : PortPool.provision metered.pool with ⟨answer, rest⟩
      have hmetered : PortPool.provision metered = (answer, ⟨rest, metered.asked + 1⟩) := by
        change ((PortPool.provision metered.pool).1, Metered.mk _ _) = _
        rw [hprovision]
      rw [hmetered]
      cases answer with
      | ok portId => exact ⟨rfl, rfl⟩
      | error cause => exact ⟨rfl, rfl⟩
  unfold place
  split
  · exact hsearch none
  · next portId _ =>
    have haccepts : allocator.accepts metered id ports portId =
        allocator.accepts metered.pool id ports portId := rfl
    rw [haccepts]
    cases allocator.accepts metered.pool id ports portId with
    | error cause => exact ⟨rfl, rfl⟩
    | ok accepted =>
      cases accepted with
      | false => exact hsearch (some portId)
      | true => exact ⟨rfl, rfl⟩

/-- Binding a service on the port found for it does what binding is there for. -/
theorem Exact.binds_of_placed (hexact : allocator.Exact) {pool rest : π} {prepared : Allocator}
    (hfresh : ∀ portId rest, PortPool.provision pool = (.ok portId, rest) →
      portId ∉ allocator.tracked)
    (hplaced : allocator.Placed pool id ports preferred portId prepared rest) :
    allocator.Binds id ports portId (prepared.bind id ports portId) := by
  have hoccupancy (other : String) : prepared.occupancy other = allocator.occupancy other := by
    cases hplaced with
    | kept => rfl
    | found => rfl
    | made hmade => exact occupancy_startPort (hfresh _ _ hmade) other
  have hprepared : prepared.Exact := hexact.of_views hplaced.records_eq hoccupancy
  refine ⟨?_, fun otherPort number => ?_, fun other hother => ?_,
    fun other hother otherPort number => ?_, hplaced.mem_tracked⟩
  · rw [records_bind, if_pos rfl]
  · rw [hprepared.holds_bind]
    split
    · next h => exact iff_of_true rfl h
    · next h => exact iff_of_false (fun hholds => hholds.2 rfl) h
  · rw [records_bind, if_neg hother, hplaced.records_eq]
  · rw [hprepared.holds_bind, holds_iff, holds_iff, hoccupancy]
    split
    · next h =>
      refine iff_of_false hother fun hholds => ?_
      obtain ⟨rfl, hnumber⟩ := h
      obtain ⟨port, hport, rfl⟩ := List.mem_map.mp hnumber
      exact hother (hplaced.holder_eq port hport other ((hoccupancy _).symm ▸ hholds))
    · exact and_iff_left hother

end Allocator

namespace Allocation

/-- Mapping a service follows the rule and disturbs nobody. In every state that calls lead to, a
mapping that succeeds binds the service to the port of the rule, and changes neither the records nor
the numbers of the other services; the ports tracked before stay tracked. The pool is asked for a
port only where the rule leaves no other way, and then once. Unmapping leaves the service no number,
on whatever port it is going to be bound. -/
theorem map_resolves {allocation : Allocation} (h : allocation.Reachable) (id : ServiceId)
    (ports : List TransportPort) (preferred : Option String) (asked : Nat) :
    let allocator := allocation.allocator
    let metered : Metered Pool := { pool := allocation.pool, asked }
    let result := allocator.map metered id ports preferred
    (result.1 = (allocator.map allocation.pool id ports preferred).1 ∧
      result.2.pool = (allocator.map allocation.pool id ports preferred).2) ∧
    (result.2.asked = asked ∨
      (∀ portId, ¬allocator.Keeps allocation.pool id ports preferred portId) ∧
        allocator.alternatives id ports preferred = ∅ ∧ result.2.asked = asked + 1) ∧
    (∀ portId mapped, result.1 = .ok (portId, mapped) →
      allocator.Resolves metered id ports preferred portId result.2 ∧
        allocator.Binds id ports portId mapped) ∧
    ∀ placement portId number,
      ¬((allocator.prepare placement).unmap id).Holds portId number id := by
  intro allocator metered result
  have hsound := h.sound
  have hexact : allocator.Exact := hsound.exact
  have hfresh : ∀ portId rest, PortPool.provision metered = (.ok portId, rest) →
      portId ∉ allocator.tracked := by
    intro portId rest hmade
    obtain ⟨hanswer, -⟩ := Prod.mk.inj hmade
    exact hsound.not_mem_tracked_of_provision (Prod.ext hanswer rfl)
  obtain ⟨hanswer, hpool⟩ := allocator.place_metered metered id ports preferred
  refine ⟨?_, ?_, fun portId mapped hmapped => ?_, fun placement portId number hholds => ?_⟩
  · simp only [result, Allocator.map_eq_place, hanswer, hpool]
    exact ⟨rfl, rfl⟩
  · simp only [result, Allocator.map_eq_place]
    rcases hexact.pool_place metered id ports preferred with hsame | ⟨hleaves, hnone, hmade⟩
    · exact Or.inl (congrArg Metered.asked hsame)
    · refine Or.inr ⟨fun other hkeeps => ?_, hnone, congrArg Metered.asked hmade⟩
      exact hleaves other ⟨hkeeps.candidate, hkeeps.present, hkeeps.openTo⟩
  · constructor
    · simp only [result, Allocator.map_eq_place] at hmapped ⊢
      obtain ⟨placement, hplacement, heq⟩ := map_eq_ok hmapped
      cases heq
      exact hexact.resolves_of_place hfresh (Prod.ext hplacement rfl)
    · obtain ⟨prepared, hplaced, rfl⟩ := Allocator.placed_of_map_eq_ok (Prod.ext hmapped rfl)
      exact hexact.binds_of_placed hfresh hplaced
  · exact ((Allocator.holds_unmap _ id id portId number).mp hholds).2 rfl

/-- Number 53 is taken on two ports, and on the first of them a third service has number 80. -/
def crowded : Allocation :=
  contested.after (.map ⟨"ns", "web"⟩ [⟨.tcp, 80⟩] none)

/-- The third service asks for number 53 too, over both protocols. It has to leave its port, no
other tracked port is open to it, and one port is made for it, on which it holds all that it asked
for. -/
theorem map_resolves_crowded :
    crowded.Reachable ∧ ∃ mapped rest,
      crowded.allocator.map (Metered.mk crowded.pool 0) ⟨"ns", "web"⟩
          [⟨.tcp, 80⟩, ⟨.tcp, 53⟩, ⟨.udp, 53⟩] none = (.ok ("port-3", mapped), rest) ∧
        crowded.allocator.Resolves (Metered.mk crowded.pool 0) ⟨"ns", "web"⟩
          [⟨.tcp, 80⟩, ⟨.tcp, 53⟩, ⟨.udp, 53⟩] none "port-3" rest ∧
        rest.asked = 1 ∧ mapped.Holds "port-3" 53 ⟨"ns", "web"⟩ ∧
        ¬mapped.Holds "port-1" 80 ⟨"ns", "web"⟩ := by
  have hstart : Reachable { pool := .sample } := .start (.empty _ _ _)
  have hreachable : crowded.Reachable :=
    .call _ (.call _ (.call _ hstart trivial) trivial) trivial
  obtain ⟨-, -, hmapped, -⟩ := map_resolves hreachable ⟨"ns", "web"⟩
    [⟨.tcp, 80⟩, ⟨.tcp, 53⟩, ⟨.udp, 53⟩] none 0
  have hanswer : (crowded.allocator.map (Metered.mk crowded.pool 0) ⟨"ns", "web"⟩
      [⟨.tcp, 80⟩, ⟨.tcp, 53⟩, ⟨.udp, 53⟩] none).1.map Prod.fst = .ok "port-3" := by
    decide +kernel
  have hasked : (crowded.allocator.map (Metered.mk crowded.pool 0) ⟨"ns", "web"⟩
      [⟨.tcp, 80⟩, ⟨.tcp, 53⟩, ⟨.udp, 53⟩] none).2.asked = 1 := by
    decide +kernel
  obtain ⟨⟨portId, mapped⟩, hok, rfl⟩ := map_eq_ok hanswer
  obtain ⟨hresolves, hbinds⟩ := hmapped _ mapped hok
  refine ⟨hreachable, mapped, _, Prod.ext hok rfl, hresolves, hasked, ?_, fun hholds => ?_⟩
  · exact (hbinds.holds _ _).mpr ⟨rfl, by decide⟩
  · exact absurd ((hbinds.holds _ _).mp hholds).1 (by decide)

end Allocation

end Balancer
