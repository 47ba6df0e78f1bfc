import Balancer.Text.Numeral
import Balancer.Text.Separated
import Balancer.Word

/-!
# IPv4 addresses

An address is a 32-bit number, written as its four octets in decimal, from the highest to the
lowest, with points between them. Only that text is read: four numerals below 256, none with a
leading zero.
-/

namespace Balancer

/-- An IPv4 address as a number. -/
structure Ipv4 where
  value : Nat
  value_lt : value < word32Count
  deriving DecidableEq

namespace Ipv4

/-- The address of a number, which counts modulo the number of addresses. -/
def ofNat (n : Nat) : Ipv4 :=
  { value := n % word32Count, value_lt := Nat.mod_lt _ (by decide) }

/-- The four octets, from the highest to the lowest. -/
def octets (address : Ipv4) : List Nat :=
  [address.value / 16777216, address.value / 65536 % 256, address.value / 256 % 256,
    address.value % 256]

/-- The address of four octets. -/
def ofOctets (a b c d : Nat) : Ipv4 :=
  ofNat (a * 16777216 + b * 65536 + c * 256 + d)

/-- The written form of an address. -/
def text (address : Ipv4) : String :=
  ".".intercalate (address.octets.map Nat.repr)

/-- Read one octet: a numeral below 256 without a leading zero. -/
def octet? : List Char → Option Nat
  | [] => none
  | ['0'] => some 0
  | '0' :: _ => none
  | digits => (Text.readDigits 256 0 digits).toOption

/-- Read an address. -/
def ofText? (text : String) : Option Ipv4 :=
  match Text.splitChars '.' text.toList with
  | [a, b, c, d] => do
    let a ← octet? a
    let b ← octet? b
    let c ← octet? c
    let d ← octet? d
    return ofOctets a b c d
  | _ => none

/-- Addresses are equal when their numbers are. -/
theorem ext {a b : Ipv4} (h : a.value = b.value) : a = b := by
  cases a
  cases b
  cases h
  rfl

/-- The number of an address made from a number that is not too large. -/
theorem value_ofNat {n : Nat} (h : n < word32Count) : (ofNat n).value = n :=
  Nat.mod_eq_of_lt h

/-- An address is made of its octets. -/
theorem ofOctets_octets (address : Ipv4) :
    ofOctets (address.value / 16777216) (address.value / 65536 % 256) (address.value / 256 % 256)
      (address.value % 256) = address := by
  apply ext
  have h := address.value_lt
  simp only [ofOctets, ofNat, word32Count] at h ⊢
  omega

end Ipv4

end Balancer
