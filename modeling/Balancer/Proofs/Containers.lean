import Mathlib

/-!
# Keys and values of ordered maps, answers, and lists that correspond

The keys and the list of the values of an ordered map, read through the entries of the map, answers
that are converted when they are no errors, and lists whose elements correspond one by one.
-/

namespace Balancer

open Std

variable {α β : Type} [Ord α] [TransOrd α]

/-- The values are the second parts of the entries. -/
theorem values_eq_map_toList (entries : ExtTreeMap α β) :
    entries.values = entries.toList.map (·.2) := by
  have hfold : entries.values = entries.foldr (fun _ value rest => value :: rest) [] := by
    obtain ⟨⟨inner⟩⟩ := entries
    induction inner using Quotient.ind
    rfl
  rw [hfold, ExtTreeMap.foldr_eq_foldr_toList]
  induction entries.toList with
  | nil => rfl
  | cons entry rest ih => simp [List.foldr, ih]

/-- A key at which a value stands is a key of the map. -/
theorem mem_of_getElem?_eq_some {entries : ExtTreeMap α β} {key : α} {value : β}
    (h : entries[key]? = some value) : key ∈ entries :=
  ExtTreeMap.mem_iff_isSome_getElem?.mpr (Option.isSome_of_eq_some h)

/-- A value is listed exactly when it stands at some key. -/
theorem mem_values_iff [LawfulEqOrd α] (entries : ExtTreeMap α β) (value : β) :
    value ∈ entries.values ↔ ∃ key : α, entries[key]? = some value := by
  rw [values_eq_map_toList]
  simp only [List.mem_map, Prod.exists, ExtTreeMap.mem_toList_iff_getElem?_eq_some,
    exists_eq_right]

/-- An ordered map is made of its entries. -/
theorem ofList_toList [LawfulEqOrd α] (entries : ExtTreeMap α β) :
    ExtTreeMap.ofList entries.toList compare = entries := by
  apply ExtTreeMap.ext_getElem?
  intro key
  cases hvalue : entries[key]? with
  | some value =>
    exact ExtTreeMap.getElem?_ofList_of_mem ReflCmp.compare_self ExtTreeMap.distinct_keys_toList
      (ExtTreeMap.mem_toList_iff_getElem?_eq_some.mpr hvalue)
  | none =>
    classical
    have hkey : key ∉ entries := by simpa using hvalue
    apply ExtTreeMap.getElem?_ofList_of_contains_eq_false
    rw [ExtTreeMap.map_fst_toList_eq_keys, ExtTreeMap.contains_keys, Bool.eq_false_iff]
    exact mt ExtTreeMap.mem_iff_contains.mpr hkey

/-- An answer that was converted without an error came from an answer without an error. -/
theorem map_eq_ok {ε α β : Type} {x : Except ε α} {f : α → β} {b : β} (h : x.map f = .ok b) :
    ∃ a, x = .ok a ∧ f a = b := by
  cases x with
  | error error => cases h
  | ok a => exact ⟨a, rfl, Except.ok.inj h⟩

/-- An answer is converted without an error exactly if it is none. -/
theorem exists_map_eq_ok {ε α β : Type} {x : Except ε α} {f : α → β} :
    (∃ b, x.map f = .ok b) ↔ ∃ a, x = .ok a := by
  constructor
  · rintro ⟨b, h⟩
    obtain ⟨a, ha, -⟩ := map_eq_ok h
    exact ⟨a, ha⟩
  · rintro ⟨a, rfl⟩
    exact ⟨f a, rfl⟩

/-- An answer is an error exactly if it is no other answer. -/
theorem exists_error_iff {ε α : Type} {x : Except ε α} :
    (∃ error, x = .error error) ↔ ¬∃ a, x = .ok a := by
  cases x with
  | error error => simp
  | ok a => simp

/-- Two steps that end without an error both do. -/
theorem bind_eq_ok {ε α β : Type} {x : Except ε α} {f : α → Except ε β} {b : β}
    (h : (x >>= f) = .ok b) : ∃ a, x = .ok a ∧ f a = .ok b := by
  cases x with
  | error error => cases h
  | ok a => exact ⟨a, rfl, h⟩

/-- In lists that correspond, each element of the first has one of the second. -/
theorem exists_of_forall₂ {α β : Type} {R : α → β → Prop} {xs : List α} {ys : List β}
    (h : List.Forall₂ R xs ys) {x : α} (hx : x ∈ xs) : ∃ y, R x y := by
  obtain ⟨i, hi, rfl⟩ := List.mem_iff_getElem.mp hx
  exact ⟨_, h.get hi (h.length_eq ▸ hi)⟩

/-- Elements that all have something that corresponds have a list of it. -/
theorem exists_forall₂ {α β : Type} {R : α → β → Prop} {xs : List α} (h : ∀ x ∈ xs, ∃ y, R x y) :
    ∃ ys, List.Forall₂ R xs ys := by
  induction xs with
  | nil => exact ⟨[], .nil⟩
  | cons x rest ih =>
    obtain ⟨y, hy⟩ := h x List.mem_cons_self
    obtain ⟨ys, hys⟩ := ih fun other hother => h other (List.mem_cons_of_mem x hother)
    exact ⟨y :: ys, .cons hy hys⟩

end Balancer
