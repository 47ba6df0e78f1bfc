import Mathlib
import Balancer.Address.Ipv4

/-!
# The written form of addresses

An address has one written form only. Two addresses are never written alike, and a text that is read
as an address is the one in which that address is written: the reader takes no leading zeros, and a
row of digits without one is the numeral of its value.
-/

namespace Balancer

namespace Text

/-- The decimal digits are the characters of the numbers below ten. -/
theorem digitValue?_eq_some {c : Char} {digit : Nat} (h : digitValue? c = some digit) :
    digit < 10 ∧ c = digit.digitChar := by
  unfold digitValue? at h
  split at h
  · next hrange =>
    cases h
    have hlow : 48 ≤ c.toNat := hrange.1
    have hhigh : c.toNat ≤ 57 := hrange.2
    have hchar : c = Char.ofNat c.toNat := (Char.ofNat_toNat c).symm
    rw [hchar]
    generalize c.toNat = code at hlow hhigh ⊢
    interval_cases code <;> decide
  · cases h

/-- A numeral goes on with the digits that are read behind it. -/
theorem toDigits_of_readDigits {limit value result : Nat} {digits : List Char} (hvalue : 0 < value)
    (hread : readDigits limit value digits = .ok result) :
    Nat.toDigits 10 result = Nat.toDigits 10 value ++ digits := by
  induction digits generalizing value with
  | nil =>
    cases hread
    rw [List.append_nil]
  | cons c rest ih =>
    simp only [readDigits] at hread
    split at hread
    · cases hread
    · next digit hdigit =>
      obtain ⟨hlt, rfl⟩ := digitValue?_eq_some hdigit
      split at hread
      · rw [ih (by omega) hread, Nat.mul_comm value 10,
          ← Nat.toDigits_append_toDigits (by decide) hvalue hlt, Nat.toDigits_of_lt_base hlt,
          List.append_assoc, List.singleton_append]
      · cases hread

/-- Dividing a text at every separator is the division of lists. -/
theorem splitChars_eq_splitOn (separator : Char) (text : List Char) :
    splitChars separator text = text.splitOn separator := by
  induction text with
  | nil => rfl
  | cons c rest ih =>
    rw [splitChars, ih, List.splitOn_cons_eq_if_modifyHead]
    by_cases hc : c = separator
    · simp [hc]
    · rw [if_neg hc, if_neg (by simpa using hc)]
      cases hparts : rest.splitOn separator with
      | nil => exact absurd hparts (List.splitOn_ne_nil separator rest)
      | cons part parts => rfl

end Text

namespace Ipv4

/-- A text that is read as an octet is the numeral of its value. -/
theorem toDigits_of_octet? {digits : List Char} {octet : Nat} (h : octet? digits = some octet) :
    octet < 256 ∧ Nat.toDigits 10 octet = digits := by
  unfold octet? at h
  split at h
  · cases h
  · cases h
    exact ⟨by decide, rfl⟩
  · cases h
  · next hnil _ hzero =>
    cases hread : Text.readDigits 256 0 digits with
    | error error =>
      rw [hread] at h
      cases h
    | ok value =>
      rw [hread] at h
      cases h
      refine ⟨Text.readDigits_lt (by decide) hread, ?_⟩
      cases digits with
      | nil => exact absurd rfl hnil
      | cons c rest =>
        simp only [Text.readDigits] at hread
        split at hread
        · cases hread
        · next digit hdigit =>
          obtain ⟨hlt, rfl⟩ := Text.digitValue?_eq_some hdigit
          have hpos : 0 < digit := by
            refine Nat.pos_of_ne_zero fun hdigit => ?_
            subst hdigit
            exact hzero rest rfl
          simp only [Nat.zero_mul, Nat.zero_add] at hread
          split at hread
          · rw [Text.toDigits_of_readDigits hpos hread, Nat.toDigits_of_lt_base hlt]
            rfl
          · cases hread

/-- The octets of an address that is made of octets. -/
theorem octets_ofOctets {a b c d : Nat} (ha : a < 256) (hb : b < 256) (hc : c < 256)
    (hd : d < 256) :
    (ofOctets a b c d).octets = [a, b, c, d] := by
  have hvalue : (ofOctets a b c d).value = a * 16777216 + b * 65536 + c * 256 + d :=
    value_ofNat (by unfold word32Count; omega)
  simp only [octets, hvalue, List.cons.injEq, and_true]
  omega

/-- The characters of the written form: the numerals of the octets with points between them. -/
theorem toList_text (address : Ipv4) :
    address.text.toList = ['.'].intercalate (address.octets.map (Nat.toDigits 10)) := by
  rw [text, String.toList_intercalate, List.map_map]
  simp [Function.comp_def, Nat.toList_repr]

/-- A text that is read as an address is its written form. -/
theorem text_of_ofText? {text : String} {address : Ipv4} (h : ofText? text = some address) :
    address.text = text := by
  unfold ofText? at h
  split at h
  · next a b c d hparts =>
    simp only [Option.bind_eq_bind, Option.bind_eq_some_iff, Option.pure_def,
      Option.some.injEq] at h
    obtain ⟨a', ha, b', hb, c', hc, d', hd, rfl⟩ := h
    obtain ⟨hlta, rfl⟩ := toDigits_of_octet? ha
    obtain ⟨hltb, rfl⟩ := toDigits_of_octet? hb
    obtain ⟨hltc, rfl⟩ := toDigits_of_octet? hc
    obtain ⟨hltd, rfl⟩ := toDigits_of_octet? hd
    have hjoin : ['.'].intercalate (text.toList.splitOn '.') = text.toList :=
      List.intercalate_splitOn '.'
    apply String.toList_injective
    rw [toList_text, octets_ofOctets hlta hltb hltc hltd, ← hjoin, ← Text.splitChars_eq_splitOn,
      hparts]
    rfl
  · cases h

/-- The octets are read off the written form. -/
theorem splitOn_text (address : Ipv4) :
    address.text.toList.splitOn '.' = address.octets.map (Nat.toDigits 10) := by
  rw [toList_text]
  apply List.splitOn_intercalate
  · intro digits hdigits hpoint
    obtain ⟨octet, -, rfl⟩ := List.mem_map.mp hdigits
    have hdigit := Nat.isDigit_of_mem_toDigits (by decide) (by decide) hpoint
    revert hdigit
    decide
  · simp [octets]

/-- Two addresses are not written alike. -/
theorem text_injective : Function.Injective text := by
  intro first second heq
  have hdigits : first.octets.map (Nat.toDigits 10) = second.octets.map (Nat.toDigits 10) := by
    rw [← splitOn_text, ← splitOn_text, heq]
  have hinjective : Function.Injective (Nat.toDigits 10) := by
    intro a b hab
    apply Nat.repr_injective
    apply String.toList_injective
    rw [Nat.toList_repr, Nat.toList_repr, hab]
  have hoctets := List.map_injective_iff.mpr hinjective hdigits
  simp only [octets, List.cons.injEq, and_true] at hoctets
  apply ext
  omega

/-- The numeral of an octet is read as the octet. -/
theorem octet?_toDigits : ∀ octet < 256, octet? (Nat.toDigits 10 octet) = some octet := by
  decide +kernel

/-- The written form of an address is read as the address. -/
theorem ofText?_text (address : Ipv4) : ofText? address.text = some address := by
  have hlt := address.value_lt
  unfold word32Count at hlt
  have hparts := address.splitOn_text
  rw [← Text.splitChars_eq_splitOn] at hparts
  simp only [ofText?, hparts, octets, List.map_cons, List.map_nil]
  rw [octet?_toDigits _ (by omega), octet?_toDigits _ (by omega), octet?_toDigits _ (by omega),
    octet?_toDigits _ (by omega)]
  exact congrArg some address.ofOctets_octets

end Ipv4

end Balancer
