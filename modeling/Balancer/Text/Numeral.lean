/-!
# Decimal numerals of bounded size

Reading an unsigned decimal numeral below a limit. One leading plus sign and any number of
leading zeros are allowed. The digits are read from the left, and the first one at fault
decides the error: a character that is no digit, or a digit that takes the value to the limit.
-/

namespace Balancer.Text

/-- Why a text is not a numeral below the limit. -/
inductive NumeralError where
  | empty
  | badDigit
  | tooLarge
  deriving DecidableEq

/-- The text of a numeral error. -/
def NumeralError.message : NumeralError → String
  | .empty => "cannot parse integer from empty string"
  | .badDigit => "invalid digit found in string"
  | .tooLarge => "number too large to fit in target type"

/-- The value of a decimal digit. -/
def digitValue? (c : Char) : Option Nat :=
  if '0' ≤ c ∧ c ≤ '9' then some (c.toNat - '0'.toNat) else none

/-- Read the digits that follow a numeral of the given value. -/
def readDigits (limit value : Nat) : List Char → Except NumeralError Nat
  | [] => .ok value
  | c :: rest =>
    match digitValue? c with
    | none => .error .badDigit
    | some digit =>
      if value * 10 + digit < limit then readDigits limit (value * 10 + digit) rest
      else .error .tooLarge

/-- Read a numeral below the limit. -/
def readNumeral (limit : Nat) (text : String) : Except NumeralError Nat :=
  match text.toList with
  | [] => .error .empty
  | ['+'] => .error .badDigit
  | '+' :: digits => readDigits limit 0 digits
  | digits => readDigits limit 0 digits

/-- Digits that are read keep the value below the limit. -/
theorem readDigits_lt {limit value result : Nat} {digits : List Char} (h : value < limit)
    (hread : readDigits limit value digits = .ok result) : result < limit := by
  induction digits generalizing value with
  | nil =>
    cases hread
    exact h
  | cons c rest ih =>
    simp only [readDigits] at hread
    split at hread
    · simp at hread
    · split at hread
      · exact ih ‹_› hread
      · simp at hread

/-- A numeral that is read is below the limit. -/
theorem readNumeral_lt {limit result : Nat} {text : String} (h : 0 < limit)
    (hread : readNumeral limit text = .ok result) : result < limit := by
  simp only [readNumeral] at hread
  split at hread
  · simp at hread
  · simp at hread
  · exact readDigits_lt h hread
  · exact readDigits_lt h hread

end Balancer.Text
