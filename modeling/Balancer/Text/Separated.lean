import Balancer.Text.Blank

/-!
# Separated texts

Two ways to divide a text at a separator character: at its first occurrence only, and at
every occurrence. Both keep each character of the text that is not a separator they divide
at, in order.
-/

namespace Balancer.Text

/-- The parts before and after the first separator, if the text has one. -/
def cutChars (separator : Char) : List Char → Option (List Char × List Char)
  | [] => none
  | c :: rest =>
    if c = separator then some ([], rest)
    else (cutChars separator rest).map fun parts => (c :: parts.1, parts.2)

/-- The parts before and after the first separator, if the text has one. -/
def cut (separator : Char) (text : String) : Option (String × String) :=
  (cutChars separator text.toList).map fun parts => (String.ofList parts.1, String.ofList parts.2)

/-- The parts between the separators: one more than there are separators. -/
def splitChars (separator : Char) : List Char → List (List Char)
  | [] => [[]]
  | c :: rest =>
    if c = separator then [] :: splitChars separator rest
    else match splitChars separator rest with
      | [] => [[c]]
      | part :: parts => (c :: part) :: parts

/-- The items of a comma-separated list: trimmed, without the empty ones. -/
def listItems (text : String) : List String :=
  ((splitChars ',' text.toList).map fun part => String.ofList (trimChars part)).filter (· ≠ "")

/-- A text is cut exactly into a first part free of the separator and the rest behind it. -/
theorem cutChars_eq_some_iff (separator : Char) (text before after : List Char) :
    cutChars separator text = some (before, after) ↔
      text = before ++ separator :: after ∧ separator ∉ before := by
  induction text generalizing before with
  | nil => simp [cutChars]
  | cons c rest ih =>
    by_cases hc : c = separator
    · subst hc
      cases before with
      | nil => simp [cutChars, eq_comm]
      | cons b before =>
        simp only [cutChars, if_true, Option.some.injEq, Prod.mk.injEq, List.cons_append,
          List.cons.injEq, List.mem_cons, not_or]
        constructor
        · rintro ⟨h, _⟩
          exact absurd h (by simp)
        · rintro ⟨⟨h, _⟩, h', _⟩
          exact absurd h h'
    · cases before with
      | nil => simp [cutChars, hc]
      | cons b before =>
        simp only [cutChars, hc, if_false, Option.map_eq_some_iff, Prod.exists, Prod.mk.injEq,
          List.cons.injEq, List.cons_append, List.mem_cons, not_or]
        constructor
        · rintro ⟨x, y, h, ⟨rfl, rfl⟩, rfl⟩
          obtain ⟨h1, h2⟩ := (ih x).mp h
          exact ⟨⟨rfl, h1⟩, fun e => hc e.symm, h2⟩
        · rintro ⟨⟨rfl, h1⟩, _, h2⟩
          exact ⟨before, after, (ih before).mpr ⟨h1, h2⟩, ⟨rfl, rfl⟩, rfl⟩

/-- A text cannot be cut exactly when the separator does not occur in it. -/
theorem cutChars_eq_none_iff (separator : Char) (text : List Char) :
    cutChars separator text = none ↔ separator ∉ text := by
  induction text with
  | nil => simp [cutChars]
  | cons c rest ih =>
    by_cases hc : c = separator
    · simp [cutChars, hc]
    · have hc' : separator ≠ c := fun e => hc e.symm
      simp [cutChars, hc, hc', ih]

/-- A text is cut exactly into a first part free of the separator and the rest behind it. -/
theorem cut_eq_some_iff (separator : Char) (text before after : String) :
    cut separator text = some (before, after) ↔
      text.toList = before.toList ++ separator :: after.toList ∧ separator ∉ before.toList := by
  rw [← cutChars_eq_some_iff]
  simp only [cut, Option.map_eq_some_iff, Prod.exists, Prod.mk.injEq]
  constructor
  · rintro ⟨first, rest, h, rfl, rfl⟩
    simpa only [String.toList_ofList] using h
  · intro h
    exact ⟨before.toList, after.toList, h, String.ofList_toList, String.ofList_toList⟩

/-- A text cannot be cut exactly when the separator does not occur in it. -/
theorem cut_eq_none_iff (separator : Char) (text : String) :
    cut separator text = none ↔ separator ∉ text.toList := by
  rw [cut, Option.map_eq_none_iff, cutChars_eq_none_iff]

end Balancer.Text
