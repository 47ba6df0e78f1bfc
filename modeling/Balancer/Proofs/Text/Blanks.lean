import Mathlib
import Balancer.Proofs.Address.Written

/-!
# Texts between blanks

Every text is one inner text between blanks, where the inner text neither starts nor ends with a
blank. Trimming finds this inner text. The items of a list are the inner texts of its parts, as far
as they are not empty.
-/

namespace Balancer.Text

/-- The characters with the property White_Space. -/
def blanks : List Char :=
  ['\t', '\n', '\x0b', '\x0c', '\r', ' ', '\u0085', '\u00a0', '\u1680', '\u2000', '\u2001',
    '\u2002', '\u2003', '\u2004', '\u2005', '\u2006', '\u2007', '\u2008', '\u2009', '\u200a',
    '\u2028', '\u2029', '\u202f', '\u205f', '\u3000']

/-- The ranges hold exactly the code points of the blanks. -/
theorem isBlank_iff_mem {c : Char} : isBlank c = true ↔ c ∈ blanks := by
  simp only [isBlank, blankRanges, List.any_cons, List.any_nil, Bool.or_false, Bool.or_eq_true,
    Bool.and_eq_true, decide_eq_true_eq, blanks, List.mem_cons, List.not_mem_nil, or_false,
    ← Char.toNat_inj, Char.reduceToNat]
  omega

/-- A text is an inner text between blanks, which neither starts nor ends with a blank itself. -/
def Trims (text inner : String) : Prop :=
  ∃ before after : List Char, text.toList = before ++ inner.toList ++ after ∧
    (∀ c ∈ before, c ∈ blanks) ∧ (∀ c ∈ after, c ∈ blanks) ∧
    (∀ c ∈ inner.toList.head?, c ∉ blanks) ∧ ∀ c ∈ inner.toList.getLast?, c ∉ blanks

/-- Nothing is dropped from a list that does not start with an element to drop. -/
theorem dropWhile_eq_self {α : Type} {p : α → Bool} {items : List α}
    (h : ∀ item ∈ items.head?, p item ≠ true) : items.dropWhile p = items := by
  cases items with
  | nil => rfl
  | cons item rest => exact List.dropWhile_cons_of_neg (h item rfl)

/-- What is left of a list does not start with an element to drop. -/
theorem head?_dropWhile {α : Type} {p : α → Bool} {items : List α} :
    ∀ item ∈ (items.dropWhile p).head?, p item ≠ true := by
  intro item hitem
  have hhead := List.head?_dropWhile_not p items
  rw [Option.mem_def.mp hitem] at hhead
  simpa using hhead

/-- Blanks around an inner text are trimmed. -/
theorem trimChars_append {before inner after : List Char} (hbefore : ∀ c ∈ before, c ∈ blanks)
    (hafter : ∀ c ∈ after, c ∈ blanks) (hhead : ∀ c ∈ inner.head?, c ∉ blanks)
    (hlast : ∀ c ∈ inner.getLast?, c ∉ blanks) : trimChars (before ++ inner ++ after) = inner := by
  simp only [← isBlank_iff_mem] at hbefore hafter hhead hlast
  rw [trimChars, List.append_assoc, List.dropWhile_append_of_pos hbefore]
  cases inner with
  | nil =>
    rw [List.nil_append, List.dropWhile_eq_nil_iff.mpr hafter]
    rfl
  | cons c rest =>
    have hreversed : ∀ c ∈ after.reverse, isBlank c = true := by simpa using hafter
    have hfront : (c :: rest ++ after).dropWhile isBlank = c :: rest ++ after :=
      dropWhile_eq_self (by simpa using hhead)
    have hback : (c :: rest).reverse.dropWhile isBlank = (c :: rest).reverse :=
      dropWhile_eq_self (by simpa only [List.head?_reverse] using hlast)
    rw [hfront, List.reverse_append, List.dropWhile_append_of_pos hreversed, hback,
      List.reverse_reverse]

/-- A text is what is trimmed between its blanks. -/
theorem trims_trimChars (text : List Char) :
    Trims (String.ofList text) (String.ofList (trimChars text)) := by
  have hinner : trimChars text = (text.dropWhile isBlank).rdropWhile isBlank := rfl
  refine ⟨text.takeWhile isBlank, (text.dropWhile isBlank).rtakeWhile isBlank, ?_, ?_, ?_, ?_, ?_⟩
  · rw [String.toList_ofList, String.toList_ofList, hinner, List.append_assoc,
      List.rdropWhile_append_rtakeWhile, List.takeWhile_append_dropWhile]
  · exact fun c hc => isBlank_iff_mem.mp (List.mem_takeWhile_imp hc)
  · exact fun c hc => isBlank_iff_mem.mp (List.mem_rtakeWhile_imp hc)
  · intro c hc
    rw [String.toList_ofList, hinner] at hc
    obtain ⟨back, hback⟩ := List.rdropWhile_prefix isBlank (text.dropWhile isBlank)
    have hfront : c ∈ (text.dropWhile isBlank).head? := by
      rw [← hback, List.head?_append, Option.mem_def.mp hc]
      rfl
    exact mt isBlank_iff_mem.mpr (head?_dropWhile c hfront)
  · intro c hc
    rw [String.toList_ofList, trimChars, List.getLast?_reverse] at hc
    exact mt isBlank_iff_mem.mpr (head?_dropWhile c hc)

/-- Trimming finds exactly the inner text. -/
theorem trim_eq_iff {text inner : String} : trim text = inner ↔ Trims text inner := by
  constructor
  · rintro rfl
    simpa only [String.ofList_toList, trim] using trims_trimChars text.toList
  · rintro ⟨before, after, htext, hbefore, hafter, hhead, hlast⟩
    rw [trim, htext, trimChars_append hbefore hafter hhead hlast, String.ofList_toList]

/-- The items of a list are what is left of the parts between its commas without the blanks around
them, as far as it is not empty. -/
def IsList (text : String) (items : List String) : Prop :=
  ∃ inners : List String, items = inners.filter (· ≠ "") ∧
    List.Forall₂ (fun part inner => Trims (String.ofList part) inner)
      (text.toList.splitOn ',') inners

/-- Exactly the items of a list are read. -/
theorem listItems_eq_iff {text : String} {items : List String} :
    listItems text = items ↔ IsList text items := by
  have hinners : ∀ inners : List String,
      List.Forall₂ (fun part inner => Trims (String.ofList part) inner)
        (text.toList.splitOn ',') inners ↔
      inners = (text.toList.splitOn ',').map fun part => String.ofList (trimChars part) := by
    intro inners
    simp only [← trim_eq_iff, trim, String.toList_ofList, eq_comm (a := inners)]
    rw [← List.forall₂_eq_eq_eq, List.forall₂_map_left_iff]
  simp only [IsList, hinners, exists_eq_right, listItems, splitChars_eq_splitOn, eq_comm]

end Balancer.Text
