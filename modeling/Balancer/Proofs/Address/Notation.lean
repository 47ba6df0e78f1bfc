import Mathlib
import Balancer.Address.Block
import Balancer.Proofs.Address.Written
import Balancer.Proofs.Text.Numerals

/-!
# The texts that describe blocks

A block is described by an address in it, a slash and the length. The address stands there in its
only written form, and the length as any numeral. Reading takes the first slash for the one between
them, which is right, since there is none in an address. The written form of a block is one of its
descriptions, so it is read as the block. A text that describes no block has a fault, which is that
of the first part at fault.
-/

namespace Balancer

namespace Ipv4

/-- There are only digits and points in the written form of an address. -/
theorem slash_not_mem_text (address : Ipv4) : '/' ∉ address.text.toList := by
  have hdigits : ∀ octet, '/' ∉ Nat.toDigits 10 octet := by
    intro octet hslash
    have hdigit := Nat.isDigit_of_mem_toDigits (by decide) (by decide) hslash
    exact absurd hdigit (by decide)
  rw [toList_text]
  simp [octets, List.intercalate, List.intersperse, hdigits]

end Ipv4

namespace Block

/-- A text describes a block: an address in the block, a slash and the length. -/
def Describes (text : String) (block : Block) : Prop :=
  ∃ (address : Ipv4) (lengthText : String), text = address.text ++ "/" ++ lengthText ∧
    Text.IsNumeral 256 lengthText block.length ∧ around address block.length = .ok block

/-- Why a text describes no block: it has no slash, or what stands before the first one is no
address, or else what stands behind it is no numeral or one for too long a length. -/
inductive Fault : String → BlockError → Prop where
  | noSlash {text : String} : '/' ∉ text.toList → Fault text (.noSlash text)
  | badAddress {before after : String} :
    '/' ∉ before.toList → (∀ address : Ipv4, address.text ≠ before) →
    Fault (before ++ "/" ++ after) (.badAddress before)
  | badLength {address : Ipv4} {after : String} :
    (∀ length, ¬Text.IsNumeral 256 after length) →
    Fault (address.text ++ "/" ++ after) (.badLength after)
  | lengthTooLarge {address : Ipv4} {after : String} {length : Nat} :
    Text.IsNumeral 256 after length → 32 < length →
    Fault (address.text ++ "/" ++ after) (.lengthTooLarge length)

/-- A block around an address has the length that was asked for. -/
theorem length_of_around {address : Ipv4} {length : Nat} {block : Block}
    (h : around address length = .ok block) : block.length = length := by
  unfold around at h
  split at h
  · cases h
    rfl
  · cases h

/-- A text is cut at a slash with none before it. -/
theorem cut_slash {before after : String} (h : '/' ∉ before.toList) :
    Text.cut '/' (before ++ "/" ++ after) = some (before, after) := by
  rw [Text.cut_eq_some_iff]
  exact ⟨by simp, h⟩

/-- Exactly the descriptions of a block are read as the block. -/
theorem ofText_eq_ok_iff {text : String} {block : Block} :
    ofText text = .ok block ↔ Describes text block := by
  unfold ofText
  constructor
  · intro h
    split at h
    · cases h
    next addressText lengthText hcut =>
    split at h
    · cases h
    next address haddress =>
    split at h
    · cases h
    next length hlength =>
    obtain ⟨htext, -⟩ := (Text.cut_eq_some_iff '/' text addressText lengthText).mp hcut
    rw [← Ipv4.text_of_ofText? haddress] at htext
    obtain rfl := length_of_around h
    refine ⟨address, lengthText, ?_, (Text.readNumeral_eq_ok_iff (by decide)).mp hlength, h⟩
    simp [← String.toList_inj, htext]
  · rintro ⟨address, lengthText, rfl, hlength, h⟩
    simp only [cut_slash address.slash_not_mem_text, Ipv4.ofText?_text,
      (Text.readNumeral_eq_ok_iff (by decide)).mpr hlength]
    exact h

/-- Every other text is refused with its fault. -/
theorem ofText_eq_error_iff {text : String} {error : BlockError} :
    ofText text = .error error ↔ Fault text error := by
  constructor
  · intro h
    unfold ofText at h
    split at h
    · next hcut =>
      cases h
      exact .noSlash ((Text.cut_eq_none_iff '/' text).mp hcut)
    next before after hcut =>
    obtain ⟨hchars, hslash⟩ := (Text.cut_eq_some_iff '/' text before after).mp hcut
    obtain rfl : text = before ++ "/" ++ after := by simp [← String.toList_inj, hchars]
    split at h
    · next hnone =>
      cases h
      refine .badAddress hslash fun address haddress => ?_
      rw [← haddress, Ipv4.ofText?_text] at hnone
      cases hnone
    next address haddress =>
    obtain rfl := Ipv4.text_of_ofText? haddress
    split at h
    · next cause hread =>
      cases h
      refine .badLength fun length hlength => ?_
      rw [← Text.readNumeral_eq_ok_iff (by decide), hread] at hlength
      cases hlength
    next length hlength =>
    unfold around at h
    split at h
    · cases h
    · next hlong =>
      cases h
      exact .lengthTooLarge ((Text.readNumeral_eq_ok_iff (by decide)).mp hlength) (not_le.mp hlong)
  · intro h
    cases h with
    | noSlash hslash => rw [ofText, (Text.cut_eq_none_iff '/' text).mpr hslash]
    | badAddress hslash hbefore =>
      simp only [ofText, cut_slash hslash]
      split
      · rfl
      · next address haddress => exact absurd (Ipv4.text_of_ofText? haddress) (hbefore address)
    | @badLength address after hlength =>
      simp only [ofText, cut_slash address.slash_not_mem_text, Ipv4.ofText?_text]
      split
      · rfl
      · next length hread =>
        exact absurd ((Text.readNumeral_eq_ok_iff (by decide)).mp hread) (hlength length)
    | @lengthTooLarge address after length hlength hlong =>
      simp only [ofText, cut_slash address.slash_not_mem_text, Ipv4.ofText?_text,
        (Text.readNumeral_eq_ok_iff (by decide)).mpr hlength]
      exact dif_neg (not_le.mpr hlong)

/-- A text has one fault only. -/
theorem Fault.unique {text : String} {error error' : BlockError} (h : Fault text error)
    (h' : Fault text error') : error = error' := by
  rw [← ofText_eq_error_iff] at h h'
  exact Except.error.inj (h.symm.trans h')

/-- A block is the one around its base. -/
theorem around_base (block : Block) : around block.base block.length = .ok block := by
  rw [around, dif_pos block.length_le]
  congr
  exact Nat.div_mul_cancel (Nat.dvd_of_mod_eq_zero block.aligned)

/-- The written form of a block is read as the block. -/
theorem ofText_text (block : Block) : ofText block.text = .ok block := by
  refine ofText_eq_ok_iff.mpr ⟨block.base, toString block.length, rfl, ?_, block.around_base⟩
  exact Text.isNumeral_repr (block.length_le.trans_lt (by decide))

end Block

end Balancer
