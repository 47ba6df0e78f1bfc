import Mathlib
import Balancer.Proofs.Text.Blanks
import Balancer.Text.Real

/-!
# The texts that are real numbers

A real number is written as digits with an optional point among or beside them and an optional
exponent, or as one of the words for infinity and for the undefined number, behind an optional
sign. Every part is described by a relation of its own, with one constructor for each way to write
it. The parts cannot be mistaken for one another: a row of digits ends where no digit follows, no
digit is a sign, and no word starts with a digit or a point. So the reader, which takes the parts
off the text from the left, reads exactly these texts, each as its value.
-/

namespace Balancer.Text

/-- An optional sign, and whether it is a minus sign. -/
inductive IsSign : List Char → Bool → Prop where
  | absent : IsSign [] false
  | plus : IsSign ['+'] false
  | minus : IsSign ['-'] true

/-- The exponent behind the digits: a mark, an optional sign and at least one digit, or nothing for
the exponent zero. -/
inductive IsExponent : List Char → Int → Prop where
  | absent : IsExponent [] 0
  | written {mark : Char} {sign digits : List Char} {negative : Bool} :
    mark = 'e' ∨ mark = 'E' → IsSign sign negative → digits ≠ [] →
    (∀ c ∈ digits, c.isDigit = true) →
    IsExponent (mark :: (sign ++ digits))
      (if negative then -(Nat.ofDigitChars 10 digits 0 : Int) else Nat.ofDigitChars 10 digits 0)

/-- A text is written for the number `digits` · 10 ^ `exponent`. With a point among the digits the
exponent is smaller by the number of the places behind the point. -/
inductive IsDecimal : List Char → Nat → Int → Prop where
  | whole {digits tail : List Char} {exponent : Int} :
    digits ≠ [] → (∀ c ∈ digits, c.isDigit = true) → IsExponent tail exponent →
    IsDecimal (digits ++ tail) (Nat.ofDigitChars 10 digits 0) exponent
  | pointed {front back tail : List Char} {exponent : Int} :
    front ++ back ≠ [] → (∀ c ∈ front, c.isDigit = true) → (∀ c ∈ back, c.isDigit = true) →
    IsExponent tail exponent →
    IsDecimal (front ++ '.' :: (back ++ tail)) (Nat.ofDigitChars 10 (front ++ back) 0)
      (exponent - back.length)

/-- A text is an unsigned real number: a word in any case, or a decimal for the nearest double. -/
inductive IsMagnitude : List Char → Float → Prop where
  | infinite {text : List Char} :
    text.map Char.toLower = "inf".toList ∨ text.map Char.toLower = "infinity".toList →
    IsMagnitude text (1.0 / 0.0)
  | undefined {text : List Char} :
    text.map Char.toLower = "nan".toList → IsMagnitude text (0.0 / 0.0)
  | decimal {text : List Char} {digits : Nat} {exponent : Int} :
    IsDecimal text digits exponent →
    IsMagnitude text (Float.ofScientific digits (decide (exponent < 0)) exponent.natAbs)

/-- A text is a real number: an optional sign and an unsigned number. -/
def IsReal (text : String) (value : Float) : Prop :=
  ∃ (sign magnitude : List Char) (negative : Bool) (number : Float),
    text.toList = sign ++ magnitude ∧ IsSign sign negative ∧ IsMagnitude magnitude number ∧
      value = if negative then -number else number

/-- Why a text is no real number. -/
inductive RealFault : String → RealError → Prop where
  | empty : RealFault "" .empty
  | malformed {text : String} :
    text ≠ "" → (¬∃ value, IsReal text value) → RealFault text .malformed

/-- A text is divided into its sign and what follows. -/
theorem exists_isSign (text : List Char) :
    ∃ sign, IsSign sign (splitSign text).1 ∧ text = sign ++ (splitSign text).2 := by
  unfold splitSign
  split
  · exact ⟨_, .minus, rfl⟩
  · exact ⟨_, .plus, rfl⟩
  · exact ⟨_, .absent, rfl⟩

/-- A sign is split off what does not start with a sign itself. -/
theorem splitSign_append {sign rest : List Char} {negative : Bool} (h : IsSign sign negative)
    (hrest : ∀ c ∈ rest.head?, c ≠ '+' ∧ c ≠ '-') :
    splitSign (sign ++ rest) = (negative, rest) := by
  cases h with
  | plus | minus => rfl
  | absent =>
    cases rest with
    | nil => rfl
    | cons c rest =>
      obtain ⟨hplus, hminus⟩ := hrest c rfl
      unfold splitSign
      split <;> simp_all

/-- A text is divided where its first digits end. -/
theorem spanDigits_eq_iff {text front rest : List Char} :
    spanDigits text = (front, rest) ↔ text = front ++ rest ∧ (∀ c ∈ front, c.isDigit = true) ∧
      ∀ c ∈ rest.head?, c.isDigit ≠ true := by
  rw [spanDigits, Prod.mk.injEq]
  constructor
  · rintro ⟨rfl, rfl⟩
    exact ⟨List.takeWhile_append_dropWhile.symm, fun c => List.mem_takeWhile_imp, head?_dropWhile⟩
  · rintro ⟨rfl, hfront, hrest⟩
    have hdropped := dropWhile_eq_self hrest
    have htaken : rest.takeWhile Char.isDigit = [] := by
      have happend := List.takeWhile_append_dropWhile (p := Char.isDigit) (l := rest)
      rwa [hdropped, List.append_left_eq_self] at happend
    rw [List.takeWhile_append_of_pos hfront, List.dropWhile_append_of_pos hfront, htaken, hdropped,
      List.append_nil]
    exact ⟨rfl, rfl⟩

section Exponents

variable {tail : List Char} {exponent : Int}

/-- An exponent starts with its mark. -/
theorem IsExponent.eq_mark (h : IsExponent tail exponent) :
    ∀ c ∈ tail.head?, c = 'e' ∨ c = 'E' := by
  cases h with
  | absent => simp
  | written hmark => simpa using hmark

/-- No digit stands at the start of an exponent. -/
theorem IsExponent.not_isDigit (h : IsExponent tail exponent) :
    ∀ c ∈ tail.head?, c.isDigit ≠ true := by
  intro c hc
  rcases h.eq_mark c hc with rfl | rfl <;> decide

/-- Digits are no signs. -/
theorem ne_sign_of_isDigit {c : Char} (h : c.isDigit = true) : c ≠ '+' ∧ c ≠ '-' := by
  constructor <;> rintro rfl <;> revert h <;> decide

/-- Exactly the exponents are read, as their values. -/
theorem readExponent_eq_some_iff :
    readExponent tail = some exponent ↔ IsExponent tail exponent := by
  constructor
  · intro h
    cases tail with
    | nil =>
      cases h
      exact .absent
    | cons mark rest =>
      obtain ⟨sign, hsign, hrest⟩ := exists_isSign rest
      simp only [readExponent] at h
      split at h
      · next hmark =>
        split at h
        · next hdigits =>
          cases h
          conv in (mark :: rest) => rw [hrest]
          exact .written hmark hsign hdigits.1 (List.all_eq_true.mp hdigits.2)
        · cases h
      · cases h
  · intro h
    cases h with
    | absent => rfl
    | @written mark sign digits negative hmark hsign hne hdigits =>
      have hsplit : splitSign (sign ++ digits) = (negative, digits) :=
        splitSign_append hsign fun c hc =>
          ne_sign_of_isDigit (hdigits c (List.mem_of_mem_head? hc))
      simp only [readExponent, hmark, hsplit, if_true]
      rw [if_pos ⟨hne, List.all_eq_true.mpr hdigits⟩]

/-- Behind the digits of a number with no point stands no point. -/
theorem IsExponent.ne_point (h : IsExponent tail exponent) :
    ∀ rest, tail ≠ '.' :: rest := by
  rintro rest rfl
  rcases h.eq_mark '.' rfl with hpoint | hpoint <;> revert hpoint <;> decide

end Exponents

section Decimals

variable {text : List Char} {digits : Nat} {exponent : Int}

/-- What is read as a number is written for it. -/
theorem isDecimal_of_readScientific {number : Scientific}
    (h : readScientific text = some number) : IsDecimal text number.digits number.exponent := by
  obtain ⟨front, rest, hspan⟩ : ∃ front rest, spanDigits text = (front, rest) := ⟨_, _, rfl⟩
  obtain ⟨rfl, hfront, -⟩ := spanDigits_eq_iff.mp hspan
  simp only [readScientific, hspan] at h
  -- only a point behind the first digits has places behind it
  split at h
  · next behind =>
    obtain ⟨back, tail, hback⟩ : ∃ back tail, spanDigits behind = (back, tail) := ⟨_, _, rfl⟩
    obtain ⟨rfl, hdigits, -⟩ := spanDigits_eq_iff.mp hback
    simp only [hback] at h
    split at h
    · cases h
    · next hne =>
      obtain ⟨exponent, hexponent, rfl⟩ := Option.map_eq_some_iff.mp h
      exact .pointed (by simpa using hne) hfront hdigits (readExponent_eq_some_iff.mp hexponent)
  · simp only [and_true, List.append_nil, List.length_nil, Nat.cast_zero, sub_zero] at h
    split at h
    · cases h
    · next hne =>
      obtain ⟨exponent, hexponent, rfl⟩ := Option.map_eq_some_iff.mp h
      exact .whole hne hfront (readExponent_eq_some_iff.mp hexponent)

/-- What is written for a number is read as it. -/
theorem readScientific_of_isDecimal (h : IsDecimal text digits exponent) :
    readScientific text = some ⟨digits, exponent⟩ := by
  cases h with
  | @whole digits tail exponent hne hdigits hexponent =>
    have hspan : spanDigits (digits ++ tail) = (digits, tail) :=
      spanDigits_eq_iff.mpr ⟨rfl, hdigits, hexponent.not_isDigit⟩
    simp only [readScientific, hspan]
    -- the exponent is not taken for a point with places
    split
    · next rest => exact absurd rfl (hexponent.ne_point rest)
    · simp [hne, readExponent_eq_some_iff.mpr hexponent]
  | @pointed front back tail exponent hne hfront hback hexponent =>
    have hspan : spanDigits (front ++ '.' :: (back ++ tail)) = (front, '.' :: (back ++ tail)) :=
      spanDigits_eq_iff.mpr ⟨rfl, hfront, by simp⟩
    have hplaces : spanDigits (back ++ tail) = (back, tail) :=
      spanDigits_eq_iff.mpr ⟨rfl, hback, hexponent.not_isDigit⟩
    have hsome : ¬(front = [] ∧ back = []) := by simpa using hne
    simp only [readScientific, hspan, hplaces, if_neg hsome, readExponent_eq_some_iff.mpr hexponent,
      Option.map_some]

/-- A number written with digits starts with a digit or a point. -/
theorem IsDecimal.exists_head (h : IsDecimal text digits exponent) :
    ∃ c rest, text = c :: rest ∧ (c.isDigit = true ∨ c = '.') := by
  cases h with
  | @whole digits tail exponent hne hdigits hexponent =>
    obtain ⟨c, rest, rfl⟩ := List.exists_cons_of_ne_nil hne
    exact ⟨c, rest ++ tail, rfl, .inl (hdigits c List.mem_cons_self)⟩
  | @pointed front back tail exponent hne hfront hback hexponent =>
    cases front with
    | nil => exact ⟨'.', back ++ tail, rfl, .inr rfl⟩
    | cons c rest => exact ⟨c, _, rfl, .inl (hfront c List.mem_cons_self)⟩

/-- A digit or a point has no other case. -/
theorem toLower_eq_self {c : Char} (h : c.isDigit = true ∨ c = '.') : c.toLower = c := by
  rcases h with h | rfl
  · refine Char.toLower_eq_of_not_isUpper fun hupper => ?_
    simp only [Char.isDigit, Char.isUpper, Bool.and_eq_true, decide_eq_true_eq] at h hupper
    exact absurd (UInt32.le_trans hupper.1 h.2) (by decide)
  · rfl

/-- No word starts with a digit or a point. -/
theorem IsDecimal.ne_word {word : List Char} (h : IsDecimal text digits exponent)
    (hword : ∀ c ∈ word.head?, c.isDigit ≠ true ∧ c ≠ '.') : text.map Char.toLower ≠ word := by
  obtain ⟨c, rest, rfl, hc⟩ := h.exists_head
  rintro rfl
  rw [List.map_cons, toLower_eq_self hc] at hword
  obtain ⟨hdigit, hpoint⟩ := hword c rfl
  exact hc.elim hdigit hpoint

end Decimals

section Magnitudes

variable {text : List Char} {value : Float}

/-- Exactly the unsigned real numbers are read, as their values. -/
theorem readMagnitude_eq_some_iff :
    readMagnitude text = some value ↔ IsMagnitude text value := by
  unfold readMagnitude
  constructor
  · intro h
    dsimp only at h
    split at h
    · next hword =>
      cases h
      exact .infinite hword
    · split at h
      · next hword =>
        cases h
        exact .undefined hword
      · obtain ⟨number, hnumber, rfl⟩ := Option.map_eq_some_iff.mp h
        exact .decimal (isDecimal_of_readScientific hnumber)
  · intro h
    cases h with
    | infinite hword => exact if_pos hword
    | undefined hword =>
      simp only [hword]
      rfl
    | decimal hdecimal =>
      simp only
      rw [if_neg, if_neg, readScientific_of_isDecimal hdecimal]
      · rfl
      -- a decimal is none of the words, which are compared first
      · exact hdecimal.ne_word (by simp)
      · exact not_or.mpr ⟨hdecimal.ne_word (by simp), hdecimal.ne_word (by simp)⟩

/-- No unsigned number starts with a sign. -/
theorem IsMagnitude.ne_sign (h : IsMagnitude text value) :
    ∀ c ∈ text.head?, c ≠ '+' ∧ c ≠ '-' := by
  intro c hc
  have hlower : (text.map Char.toLower).head? = some c.toLower := by
    rw [List.head?_map, Option.mem_def.mp hc]
    rfl
  cases h with
  | infinite hword =>
    rcases hword with hword | hword <;> rw [hword] at hlower <;> constructor <;> rintro rfl <;>
      revert hlower <;> decide
  | undefined hword =>
    rw [hword] at hlower
    constructor <;> rintro rfl <;> revert hlower <;> decide
  | decimal hdecimal =>
    obtain ⟨c', rest, rfl, hdigit | rfl⟩ := hdecimal.exists_head
    · cases hc
      exact ne_sign_of_isDigit hdigit
    · cases hc
      decide

end Magnitudes

/-- Exactly the real numbers are read, as their values. -/
theorem readReal_eq_ok_iff {text : String} {value : Float} :
    readReal text = .ok value ↔ IsReal text value := by
  unfold readReal IsReal
  constructor
  · intro h
    obtain ⟨sign, hsign, htext⟩ := exists_isSign text.toList
    dsimp only at h
    split at h
    · next number hnumber =>
      cases h
      exact ⟨sign, _, _, number, htext, hsign, readMagnitude_eq_some_iff.mp hnumber, rfl⟩
    · cases h
  · rintro ⟨sign, magnitude, negative, number, htext, hsign, hmagnitude, rfl⟩
    simp only [htext, splitSign_append hsign hmagnitude.ne_sign,
      readMagnitude_eq_some_iff.mpr hmagnitude]

/-- Every other text is refused, and the fault is that there is no text or that it is malformed. -/
theorem readReal_eq_error_iff {text : String} {cause : RealError} :
    readReal text = .error cause ↔ RealFault text cause := by
  have hcause : ∀ cause, readReal text = .error cause →
      cause = if text = "" then .empty else .malformed := by
    intro cause h
    unfold readReal at h
    dsimp only at h
    split at h
    · cases h
    · exact (Except.error.inj h).symm
  constructor
  · intro h
    have hrefused : ¬∃ value, IsReal text value := by
      rintro ⟨value, hvalue⟩
      rw [← readReal_eq_ok_iff, h] at hvalue
      cases hvalue
    rw [hcause cause h]
    split
    · next hempty => exact hempty ▸ .empty
    · next hne => exact .malformed hne hrefused
  · intro h
    cases h with
    | empty => rfl
    | malformed hne hrefused =>
      cases hread : readReal text with
      | ok value => exact absurd ⟨value, readReal_eq_ok_iff.mp hread⟩ hrefused
      | error cause => rw [hcause cause hread, if_neg hne]

/-- A text has one fault only. -/
theorem RealFault.unique {text : String} {cause cause' : RealError} (h : RealFault text cause)
    (h' : RealFault text cause') : cause = cause' := by
  rw [← readReal_eq_error_iff] at h h'
  exact Except.error.inj (h.symm.trans h')

end Balancer.Text
