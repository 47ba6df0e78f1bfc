import Mathlib
import Balancer.Address.Block

/-!
# Blocks as masks

The addresses of a block share their first bits. The mask of a length has one bits in these places,
and an address is in a block exactly if the mask takes it to the base. Clearing the bits behind the
length is the same as rounding down to a multiple of the size, for the 33 lengths alike. A length of
zero is told apart, since a word is not shifted by as many places as it has bits.
-/

namespace Balancer

/-- The 32 bits of an address. -/
def Ipv4.bits (address : Ipv4) : BitVec 32 :=
  BitVec.ofNat 32 address.value

/-- An address is the number of its bits. -/
theorem Ipv4.toNat_bits (address : Ipv4) : address.bits.toNat = address.value :=
  Nat.mod_eq_of_lt address.value_lt

namespace Block

/-- The mask of a length: this many one bits from the left, and zero bits behind them. -/
def mask (length : Nat) : BitVec 32 :=
  if length = 0 then 0#32 else BitVec.allOnes 32 <<< (32 - min length 32)

/-- The mask of no bits is what shifting all bits out leaves, too. -/
theorem mask_eq {length : Nat} (h : length ≤ 32) :
    mask length = BitVec.allOnes 32 <<< (32 - length) := by
  unfold mask
  split
  · next hzero =>
    subst hzero
    decide
  · rw [min_eq_left h]

/-- Masking shifts the bits behind the mask out and brings zero bits in. -/
theorem and_allOnes_shiftLeft {width : Nat} (bits : BitVec width) (places : Nat) :
    bits &&& BitVec.allOnes width <<< places = (bits >>> places) <<< places := by
  ext i hi
  by_cases hplace : i < places
  · simp [hplace]
  · simp [hplace, Nat.add_sub_of_le (Nat.le_of_not_lt hplace), hi]

/-- Masking an address rounds it down to a multiple of the size. -/
theorem toNat_and_mask (address : Ipv4) {length : Nat} (h : length ≤ 32) :
    (address.bits &&& mask length).toNat =
      address.value / twoPower (32 - length) * twoPower (32 - length) := by
  have hlt : address.value / 2 ^ (32 - length) * 2 ^ (32 - length) < 2 ^ 32 :=
    (Nat.div_mul_le_self _ _).trans_lt address.value_lt
  rw [mask_eq h, and_allOnes_shiftLeft, BitVec.toNat_shiftLeft, BitVec.toNat_ushiftRight,
    Ipv4.toNat_bits, Nat.shiftLeft_eq, Nat.shiftRight_eq_div_pow, Nat.mod_eq_of_lt hlt]
  rfl

/-- An address is in a block exactly if the mask takes it to the base. -/
theorem contains_iff_mask (block : Block) (address : Ipv4) :
    block.contains address = true ↔ address.bits &&& mask block.length = block.base.bits := by
  rw [contains, decide_eq_true_eq, ← BitVec.toNat_inj, toNat_and_mask address block.length_le,
    Ipv4.toNat_bits]
  rfl

end Block

end Balancer
