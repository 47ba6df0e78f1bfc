import Mathlib
import Balancer.Text.Numeral

/-!
# The texts that are numerals

A numeral is a row of decimal digits, perhaps behind one plus sign, and its value is below the
limit. The reader checks the limit at every digit, which makes no difference, since the value never
shrinks with a further digit. So it reads exactly these texts, each as its value. In every other
text there is a first character at fault, unless there is none at all behind the sign, and the fault
is what is wrong with this character.
-/

namespace Balancer.Text

/-- A text is a numeral for a value below the limit: at least one decimal digit and no other
character, but for one plus sign in front. -/
def IsNumeral (limit : Nat) (text : String) (value : Nat) : Prop :=
  ∃ digits : List Char, (text.toList = digits ∨ text.toList = '+' :: digits) ∧ digits ≠ [] ∧
    (∀ c ∈ digits, c.isDigit = true) ∧ Nat.ofDigitChars 10 digits 0 = value ∧ value < limit

/-- The first character at fault behind a numeral of the given value: it is no digit, or a digit
that takes the value to the limit. What stands before it are digits of a value below the limit. -/
def DigitFault (limit value : Nat) (text : List Char) (cause : NumeralError) : Prop :=
  ∃ (digits : List Char) (c : Char) (rest : List Char), text = digits ++ c :: rest ∧
    (∀ digit ∈ digits, digit.isDigit = true) ∧ Nat.ofDigitChars 10 digits value < limit ∧
    (c.isDigit ≠ true ∧ cause = .badDigit ∨
      c.isDigit = true ∧ limit ≤ Nat.ofDigitChars 10 (digits ++ [c]) value ∧ cause = .tooLarge)

/-- Why a text is no numeral for a value below the limit: there is no character or nothing but a
sign, or there is a first character at fault behind the sign. -/
inductive NumeralFault (limit : Nat) : String → NumeralError → Prop where
  | empty : NumeralFault limit "" .empty
  | sign : NumeralFault limit "+" .badDigit
  | unsigned {text : String} {cause : NumeralError} :
    text.toList.head? ≠ some '+' → DigitFault limit 0 text.toList cause →
    NumeralFault limit text cause
  | signed {text : String} {digits : List Char} {cause : NumeralError} :
    text.toList = '+' :: digits → DigitFault limit 0 digits cause → NumeralFault limit text cause

/-- A decimal digit has its place behind zero as its value. -/
theorem digitValue?_eq (c : Char) :
    digitValue? c = if c.isDigit = true then some (c.toNat - '0'.toNat) else none := by
  have hdigit : ('0' ≤ c ∧ c ≤ '9') ↔ c.isDigit = true := by
    simp only [Char.isDigit, Bool.and_eq_true, decide_eq_true_eq]
    rfl
  simp only [digitValue?, hdigit]

/-- A value does not shrink with further digits. -/
theorem le_ofDigitChars (digits : List Char) (value : Nat) :
    value ≤ Nat.ofDigitChars 10 digits value := by
  rw [Nat.ofDigitChars_eq_ofDigitChars_zero]
  exact (Nat.le_mul_of_pos_left value (Nat.pow_pos (by decide))).trans (Nat.le_add_right _ _)

/-- Characters are read behind a value exactly if they are digits and the value of all together is
below the limit. -/
theorem readDigits_eq_ok_iff {limit value result : Nat} {digits : List Char} (h : value < limit) :
    readDigits limit value digits = .ok result ↔
      (∀ c ∈ digits, c.isDigit = true) ∧ Nat.ofDigitChars 10 digits value = result ∧
        result < limit := by
  induction digits generalizing value with
  | nil =>
    simp only [readDigits, Nat.ofDigitChars_nil, Except.ok.injEq, List.not_mem_nil, false_implies,
      implies_true, true_and]
    exact ⟨fun heq => ⟨heq, heq ▸ h⟩, And.left⟩
  | cons c rest ih =>
    rw [readDigits, digitValue?_eq, List.forall_mem_cons, Nat.ofDigitChars_cons]
    by_cases hdigit : c.isDigit = true
    · rw [if_pos hdigit]
      dsimp only
      rw [Nat.mul_comm value 10]
      split
      · next hbelow => rw [ih hbelow, and_iff_right hdigit]
      · next hreached =>
        have hle := le_ofDigitChars rest (10 * value + (c.toNat - '0'.toNat))
        refine iff_of_false (by simp) ?_
        rintro ⟨-, rfl, hlt⟩
        exact hreached (hle.trans_lt hlt)
    · rw [if_neg hdigit]
      exact iff_of_false (by simp) fun hall => hdigit hall.1.1

/-- The character at fault is the first one, or it comes behind a digit that keeps the value below
the limit. -/
theorem digitFault_cons_iff {limit value : Nat} {c : Char} {rest : List Char}
    {cause : NumeralError} (h : value < limit) :
    DigitFault limit value (c :: rest) cause ↔
      c.isDigit ≠ true ∧ cause = .badDigit ∨
      c.isDigit = true ∧ limit ≤ 10 * value + (c.toNat - '0'.toNat) ∧ cause = .tooLarge ∨
      c.isDigit = true ∧ 10 * value + (c.toNat - '0'.toNat) < limit ∧
        DigitFault limit (10 * value + (c.toNat - '0'.toNat)) rest cause := by
  constructor
  · rintro ⟨digits, c', rest', htext, hdigits, hbelow, hfault⟩
    cases digits with
    | nil =>
      obtain ⟨rfl, rfl⟩ : c = c' ∧ rest = rest' := by simpa using htext
      exact hfault.imp id .inl
    | cons digit digits =>
      obtain ⟨rfl, rfl⟩ : c = digit ∧ rest = digits ++ c' :: rest' := by simpa using htext
      rw [List.forall_mem_cons] at hdigits
      rw [Nat.ofDigitChars_cons] at hbelow
      refine .inr (.inr ⟨hdigits.1, (le_ofDigitChars _ _).trans_lt hbelow, ?_⟩)
      exact ⟨digits, c', rest', rfl, hdigits.2, hbelow, hfault⟩
  · rintro (hfault | hfault | ⟨hdigit, -, digits, c', rest', rfl, hdigits, hbelow, hfault⟩)
    · exact ⟨[], c, rest, rfl, List.forall_mem_nil _, h, .inl hfault⟩
    · exact ⟨[], c, rest, rfl, List.forall_mem_nil _, h, .inr hfault⟩
    · exact ⟨c :: digits, c', rest', rfl, List.forall_mem_cons.mpr ⟨hdigit, hdigits⟩, hbelow,
        hfault⟩

/-- Characters that are refused behind a value have a first one at fault, and the error is its
fault. -/
theorem readDigits_eq_error_iff {limit value : Nat} {digits : List Char} {cause : NumeralError}
    (h : value < limit) :
    readDigits limit value digits = .error cause ↔ DigitFault limit value digits cause := by
  induction digits generalizing value with
  | nil => simp [readDigits, DigitFault]
  | cons c rest ih =>
    rw [readDigits, digitValue?_eq, digitFault_cons_iff h]
    by_cases hdigit : c.isDigit = true
    · rw [if_pos hdigit]
      dsimp only
      rw [Nat.mul_comm value 10]
      generalize c.toNat - '0'.toNat = place
      split
      · next hbelow => simp [hdigit, hbelow, not_le.mpr hbelow, ih hbelow]
      · next hreached => simp [hdigit, hreached, not_lt.mp hreached, eq_comm]
    · simp [hdigit, eq_comm]

/-- The plus sign is no digit. -/
theorem not_isDigit_plus : '+'.isDigit ≠ true := by decide

/-- Exactly the numerals are read, as their values. -/
theorem readNumeral_eq_ok_iff {limit value : Nat} {text : String} (h : 0 < limit) :
    readNumeral limit text = .ok value ↔ IsNumeral limit text value := by
  unfold readNumeral IsNumeral
  split
  · next hnil => simp [hnil]
  · next hplus =>
    refine iff_of_false (by simp) ?_
    rintro ⟨digits, heq | heq, hne, hall, -⟩
    · exact not_isDigit_plus (hall '+' (by simp [← heq, hplus]))
    · simp_all
  · next digits hne hplus =>
    rw [readDigits_eq_ok_iff h]
    constructor
    · rintro ⟨hall, hvalue, hlt⟩
      exact ⟨digits, .inr hplus, hne, hall, hvalue, hlt⟩
    · rintro ⟨digits', heq | heq, -, hall, hvalue, hlt⟩
      · exact absurd (hall '+' (by simp [← heq, hplus])) not_isDigit_plus
      · obtain rfl : digits = digits' := by simpa [hplus] using heq
        exact ⟨hall, hvalue, hlt⟩
  · next hnil hsign hplus =>
    rw [readDigits_eq_ok_iff h]
    constructor
    · rintro ⟨hall, hvalue, hlt⟩
      exact ⟨text.toList, .inl rfl, hnil, hall, hvalue, hlt⟩
    · rintro ⟨digits, rfl | heq, -, hall, hvalue, hlt⟩
      · exact ⟨hall, hvalue, hlt⟩
      · exact absurd heq (hplus digits)

/-- Every other text is refused with its fault. -/
theorem readNumeral_eq_error_iff {limit : Nat} {text : String} {cause : NumeralError}
    (h : 0 < limit) :
    readNumeral limit text = .error cause ↔ NumeralFault limit text cause := by
  unfold readNumeral
  constructor
  · intro hread
    split at hread
    · next hnil =>
      cases hread
      obtain rfl : text = "" := by simpa using hnil
      exact .empty
    · next hplus =>
      cases hread
      obtain rfl : text = "+" := String.toList_injective hplus
      exact .sign
    · next digits _ hplus => exact .signed hplus ((readDigits_eq_error_iff h).mp hread)
    · next _ _ hplus =>
      refine .unsigned (fun hhead => ?_) ((readDigits_eq_error_iff h).mp hread)
      obtain ⟨digits, hdigits⟩ := List.head?_eq_some_iff.mp hhead
      exact hplus digits hdigits
  · intro hfault
    cases hfault with
    | empty | sign => rfl
    | unsigned hhead hfault =>
      rw [← readDigits_eq_error_iff h] at hfault
      split
      · next hnil =>
        rw [hnil] at hfault
        cases hfault
      · next hplus => exact absurd (by rw [hplus]; rfl) hhead
      · next digits _ hplus => exact absurd (by rw [hplus]; rfl) hhead
      · exact hfault
    | @signed _ digits _ hplus hfault =>
      rw [← readDigits_eq_error_iff h] at hfault
      cases digits with
      | nil => cases hfault
      | cons c rest =>
        rw [hplus]
        exact hfault

/-- A text has one fault only. -/
theorem NumeralFault.unique {limit : Nat} {text : String} {cause cause' : NumeralError}
    (hlimit : 0 < limit) (h : NumeralFault limit text cause) (h' : NumeralFault limit text cause') :
    cause = cause' := by
  rw [← readNumeral_eq_error_iff hlimit] at h h'
  exact Except.error.inj (h.symm.trans h')

/-- A text is a numeral for one value only. -/
theorem IsNumeral.unique {limit value value' : Nat} {text : String}
    (h : IsNumeral limit text value) (h' : IsNumeral limit text value') : value = value' := by
  have hpos : 0 < limit := by
    obtain ⟨-, -, -, -, -, hlt⟩ := h
    exact Nat.zero_lt_of_lt hlt
  rw [← readNumeral_eq_ok_iff hpos] at h h'
  exact Except.ok.inj (h.symm.trans h')

/-- The decimal representation of a value is a numeral for it. -/
theorem isNumeral_repr {limit value : Nat} (h : value < limit) :
    IsNumeral limit (Nat.repr value) value := by
  refine ⟨Nat.toDigits 10 value, .inl (Nat.toList_repr ..), Nat.toDigits_ne_nil, fun c hc => ?_,
    Nat.ofDigitChars_ten_toDigits, h⟩
  exact Nat.isDigit_of_mem_toDigits (by decide) (by decide) hc

end Balancer.Text
