import Mathlib

/-!
# Lists in ascending order

A set of elements is listed in ascending order in one way only. A stable sort keeps the order of the
elements that it does not tell apart.
-/

namespace Balancer

variable {α : Type}

section Listing

variable [Ord α] [Std.OrientedOrd α]

/-- Ascending lists with the same elements are equal. -/
theorem eq_of_ascending {xs ys : List α} (h : xs.Pairwise fun a b => compare a b = .lt)
    (h' : ys.Pairwise fun a b => compare a b = .lt) (hmem : ∀ a, a ∈ xs ↔ a ∈ ys) : xs = ys := by
  have : Std.Irrefl fun a b : α => compare a b = .lt :=
    ⟨fun a hlt => absurd hlt (Std.OrientedCmp.not_lt_of_lt hlt)⟩
  have : Std.Antisymm fun a b : α => compare a b = .lt :=
    ⟨fun a b hlt hgt => absurd hgt (Std.OrientedCmp.not_lt_of_lt hlt)⟩
  exact h.eq_of_mem_iff h' hmem

/-- A list has exactly the elements with a property, each once and in ascending order. -/
structure Enumerates (xs : List α) (property : α → Prop) : Prop where
  ascending : xs.Pairwise fun a b => compare a b = .lt
  mem_iff : ∀ a, a ∈ xs ↔ property a

/-- The elements with a property are listed in one way only. -/
theorem Enumerates.unique {xs ys : List α} {property : α → Prop} (h : Enumerates xs property)
    (h' : Enumerates ys property) : xs = ys :=
  eq_of_ascending h.ascending h'.ascending fun a => (h.mem_iff a).trans (h'.mem_iff a).symm

end Listing

/-- A stable sort brings the elements in order, and those that are alike stay in the order in which
they were. -/
theorem pairwise_mergeSort_of_pairwise {le : α → α → Bool} {before : α → α → Prop}
    (htrans : ∀ a b c, le a b = true → le b c = true → le a c = true)
    (htotal : ∀ a b, (le a b || le b a) = true) {xs : List α} (h : xs.Pairwise before) :
    (xs.mergeSort le).Pairwise fun a b => le a b = true ∧ (le b a = true → before a b) := by
  -- The sort is the one of the elements with their places, where the places decide between equals.
  rw [← List.mergeSort_zipIdx, List.pairwise_map]
  have hperm := List.mergeSort_perm xs.zipIdx (List.zipIdxLE le)
  have hsorted := List.pairwise_mergeSort (List.zipIdxLE_trans htrans) (List.zipIdxLE_total htotal)
    xs.zipIdx
  have hplaces : (xs.zipIdx.mergeSort (List.zipIdxLE le)).Pairwise fun a b => a.2 ≠ b.2 := by
    have hnodup : (xs.zipIdx.map Prod.snd).Nodup := by
      rw [List.zipIdx_map_snd]
      exact List.nodup_range'
    exact List.pairwise_map.mp ((hperm.map Prod.snd).nodup_iff.mpr hnodup)
  refine (hsorted.and hplaces).imp_of_mem fun {a b} ha hb hab => ?_
  obtain ⟨hle, hne⟩ := hab
  rw [hperm.mem_iff, List.mem_zipIdx_iff_getElem?] at ha hb
  unfold List.zipIdxLE at hle
  split at hle
  · next hab =>
    refine ⟨hab, fun hba => ?_⟩
    rw [if_pos hba, decide_eq_true_eq] at hle
    obtain ⟨hlt, ha⟩ := List.getElem?_eq_some_iff.mp ha
    obtain ⟨hlt', hb⟩ := List.getElem?_eq_some_iff.mp hb
    rw [← ha, ← hb]
    exact List.pairwise_iff_getElem.mp h a.2 b.2 hlt hlt' (Nat.lt_of_le_of_ne hle hne)
  · cases hle

end Balancer
