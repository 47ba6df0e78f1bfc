import Balancer.Text.Numeral

/-!
# Decimal fractions

Reading a real number into the nearest double: an optional sign, then digits with an optional
point and an optional exponent, or one of the words for infinity and for the undefined number.
A value beyond the largest double reads as infinity, and one too small for any double as zero;
both keep their sign.
-/

namespace Balancer.Text

/-- Why a text is not a real number. -/
inductive RealError where
  | empty
  | malformed
  deriving DecidableEq

/-- The text of a real number error. -/
def RealError.message : RealError → String
  | .empty => "cannot parse float from empty string"
  | .malformed => "invalid float literal"

/-- The number `digits` · 10 ^ `exponent`. -/
structure Scientific where
  digits : Nat
  exponent : Int
  deriving DecidableEq

/-- The digits at the front of a text, and what follows them. -/
def spanDigits (text : List Char) : List Char × List Char :=
  (text.takeWhile Char.isDigit, text.dropWhile Char.isDigit)

/-- Whether a text has a minus sign in front, and what follows a sign. -/
def splitSign : List Char → Bool × List Char
  | '-' :: rest => (true, rest)
  | '+' :: rest => (false, rest)
  | rest => (false, rest)

/-- The exponent written behind the digits, which is zero where none is written. -/
def readExponent : List Char → Option Int
  | [] => some 0
  | c :: rest =>
    if c = 'e' ∨ c = 'E' then
      let signed := splitSign rest
      if signed.2 ≠ [] ∧ signed.2.all Char.isDigit then
        let value : Int := Nat.ofDigitChars 10 signed.2 0
        some (if signed.1 then -value else value)
      else none
    else none

/-- Read digits with an optional point and exponent; there is at least one digit. -/
def readScientific (text : List Char) : Option Scientific :=
  let whole := spanDigits text
  let fraction : List Char × List Char :=
    match whole.2 with
    | '.' :: rest => spanDigits rest
    | rest => ([], rest)
  if whole.1 = [] ∧ fraction.1 = [] then none
  else (readExponent fraction.2).map fun exponent =>
    { digits := Nat.ofDigitChars 10 (whole.1 ++ fraction.1) 0
      exponent := exponent - fraction.1.length }

/-- The double nearest to a number. -/
def Scientific.toFloat (number : Scientific) : Float :=
  Float.ofScientific number.digits (decide (number.exponent < 0)) number.exponent.natAbs

/-- Read an unsigned real number. -/
def readMagnitude (text : List Char) : Option Float :=
  let word := text.map Char.toLower
  if word = "inf".toList ∨ word = "infinity".toList then some (1.0 / 0.0)
  else if word = "nan".toList then some (0.0 / 0.0)
  else (readScientific text).map Scientific.toFloat

/-- Read a real number. -/
def readReal (text : String) : Except RealError Float :=
  let signed := splitSign text.toList
  match readMagnitude signed.2 with
  | some value => .ok (if signed.1 then -value else value)
  | none => .error (if text = "" then .empty else .malformed)

end Balancer.Text
