import Balancer.Text.Unprintable

/-!
# Quoted text

A text between double quotes, as event texts and job names show it. The quote and the
backslash are written behind a backslash, four controls by a letter, and every other character
without a visible form by its hexadecimal code point in braces.
-/

namespace Balancer.Text

/-- The code point of a character in braces, behind a backslash and the letter `u`. -/
def codePointEscape (c : Char) : List Char :=
  ['\\', 'u', '{'] ++ Nat.toDigits 16 c.toNat ++ ['}']

/-- One character as it stands between the quotes. -/
def quoteChar (c : Char) : List Char :=
  if c = '"' then ['\\', '"']
  else if c = '\\' then ['\\', '\\']
  else if c = '\n' then ['\\', 'n']
  else if c = '\r' then ['\\', 'r']
  else if c = '\t' then ['\\', 't']
  else if c = '\x00' then ['\\', '0']
  else if isUnprintable c then codePointEscape c
  else [c]

/-- A text between double quotes. -/
def quoted (text : String) : String :=
  String.ofList ('"' :: text.toList.flatMap quoteChar ++ ['"'])

end Balancer.Text
