import Mathlib
import Balancer.Proofs.Ascending
import Balancer.Proofs.Forwarding.Footprint

/-!
# The entries of a forwarding model

A model that is generated has one entry for each assigned port, in the order of the ports. The entry
has the address of the port, and its forwards are those of the services on the port, brought in
order.
-/

namespace Balancer

/-- Bringing texts in order lists them in ascending order. -/
theorem enumerates_sortedDistinct (texts : List String) :
    Enumerates (sortedDistinct texts) (· ∈ texts) where
  ascending := Std.ExtTreeSet.ordered_toList
  mem_iff := mem_sortedDistinct texts

/-- The services assigned to a port are listed in ascending order. -/
theorem Assignment.enumerates_servicesOn (assignment : Assignment) (portId : String) :
    Enumerates (assignment.servicesOn portId) fun id => assignment[id]? = some portId where
  ascending := by
    have hordered : assignment.toList.Pairwise fun a b => compare a.1 b.1 = .lt :=
      Std.ExtTreeMap.ordered_keys_toList
    exact List.pairwise_map.mpr (hordered.filter _)
  mem_iff := Assignment.mem_servicesOn_iff assignment portId

/-- Bringing texts in order leaves each of them once. -/
theorem nodup_sortedDistinct (texts : List String) : (sortedDistinct texts).Nodup := by
  unfold sortedDistinct
  apply Std.ExtTreeSet.distinct_toList.imp
  intro first second hdistinct heq
  exact hdistinct (Std.LawfulEqOrd.compare_eq_iff_eq.mpr heq)

/-- The forwards of stored services to the given nodes, each with the service that it stems from. -/
def forwardsOf (stored : ServiceId → Option Service) (nodes : List String) (ids : List ServiceId) :
    List (ServiceId × PortForward) :=
  ids.flatMap fun id =>
    ((stored id).map fun service => (service.forwards nodes).map (Prod.mk id)).getD []

namespace ModelSource

variable {source : ModelSource} {nodes : List String} {assignment : Assignment}

/-- A source that answers for services with the stored objects gives the forwards of the stored
objects. -/
theorem forwards_eq_ok {stored : ServiceId → Option Service} {ids : List ServiceId}
    (hsource : ∀ id ∈ ids, source.service id = .ok (stored id)) :
    source.forwards nodes ids = .ok ((forwardsOf stored nodes ids).map Prod.snd) := by
  induction ids with
  | nil => rfl
  | cons id rest ih =>
    rw [forwards, hsource id List.mem_cons_self,
      ih fun other hother => hsource other (List.mem_cons_of_mem id hother)]
    simp only [forwardsOf, List.flatMap_cons, List.map_append, Except.map]
    cases stored id with
    | none => rfl
    | some service => simp [Function.comp_def]

/-- Services whose forwards are known can be read. -/
theorem service_of_forwards_eq_ok {ids : List ServiceId} {forwards : List PortForward}
    (h : source.forwards nodes ids = .ok forwards) :
    ∀ id ∈ ids, ∃ found, source.service id = .ok found := by
  induction ids generalizing forwards with
  | nil => simp
  | cons id rest ih =>
    unfold ModelSource.forwards at h
    split at h
    · cases h
    · next found hfound =>
      obtain ⟨others, hothers, -⟩ := map_eq_ok h
      intro other hother
      rcases List.mem_cons.mp hother with rfl | hrest
      · exact ⟨found, hfound⟩
      · exact ih hothers other hrest

/-- There is one entry for each of the ports. -/
theorem entries_eq_ok_iff {portIds : List String} {entries : List IngressAddress} :
    source.entries nodes assignment portIds = .ok entries ↔
      List.Forall₂ (fun portId entry => source.entry nodes assignment portId = .ok entry)
        portIds entries := by
  constructor
  · intro h
    induction portIds generalizing entries with
    | nil =>
      cases h
      exact .nil
    | cons portId rest ih =>
      unfold ModelSource.entries at h
      split at h
      · cases h
      · next entry hentry =>
        obtain ⟨others, hothers, rfl⟩ := map_eq_ok h
        exact .cons hentry (ih hothers)
  · intro h
    induction h with
    | nil => rfl
    | cons hentry _ ih =>
      rw [ModelSource.entries, hentry, ih]
      rfl

/-- The entry of a port has its address, and the forwards of the services on it in some order. -/
theorem entry_eq_ok {portId : String} {entry : IngressAddress}
    (h : source.entry nodes assignment portId = .ok entry) :
    source.address portId = .ok entry.address ∧
      ∃ forwards, source.forwards nodes (Assignment.servicesOn assignment portId) = .ok forwards ∧
        entry.forwards.Perm forwards := by
  unfold ModelSource.entry at h
  split at h
  · cases h
  · next address haddress =>
    obtain ⟨forwards, hforwards, rfl⟩ := map_eq_ok h
    exact ⟨haddress, forwards, hforwards, List.mergeSort_perm _ _⟩

end ModelSource

end Balancer
