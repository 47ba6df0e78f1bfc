import Mathlib
import Balancer.Address.Block

/-!
# Blocks as intervals

The addresses of a block are the numbers from its base up to its base and size. They are told apart
by how far behind the base they are, and none of them reaches the limit of 32 bits.
-/

namespace Balancer.Block

variable (block : Block)

/-- The addresses of a block are consecutive numbers. -/
theorem contains_iff (address : Ipv4) :
    block.contains address = true ↔
      block.base.value ≤ address.value ∧ address.value < block.base.value + block.size := by
  have hpos := block.size_pos
  rw [contains, decide_eq_true_eq]
  constructor
  · intro hbase
    have hlow := Nat.div_mul_le_self address.value block.size
    have hhigh := Nat.lt_div_mul_add (a := address.value) hpos
    omega
  · rintro ⟨hlow, hhigh⟩
    obtain ⟨q, hq⟩ := Nat.dvd_of_mod_eq_zero block.aligned
    change block.base.value = block.size * q at hq
    rw [Nat.mul_comm] at hq
    have hquotient : address.value / block.size = q :=
      Nat.div_eq_of_lt_le (by omega) (by rw [Nat.succ_mul]; omega)
    rw [hquotient, hq]

/-- A block has at most as many addresses as there are. -/
theorem size_le : block.size ≤ word32Count :=
  (Nat.le_add_left _ _).trans block.base_add_size_le

variable {block} {place other : Nat}

/-- The addresses of a block are not cut to 32 bits. -/
theorem value_ofNat (h : place < block.size) :
    (Ipv4.ofNat (block.base.value + place)).value = block.base.value + place := by
  have hfits := block.base_add_size_le
  exact Ipv4.value_ofNat (by omega)

/-- The addresses that are not further behind the base than the size are in the block. -/
theorem contains_ofNat (h : place < block.size) :
    block.contains (Ipv4.ofNat (block.base.value + place)) = true := by
  rw [contains_iff, value_ofNat h]
  omega

/-- The addresses behind the base are not the base. -/
theorem ofNat_ne_base (hpos : 0 < place) (h : place < block.size) :
    Ipv4.ofNat (block.base.value + place) ≠ block.base := by
  intro heq
  have hvalue := value_ofNat h
  rw [heq] at hvalue
  omega

/-- The addresses of a block are told apart by how far behind the base they are. -/
theorem eq_of_ofNat_eq (h : place < block.size) (h' : other < block.size)
    (heq : Ipv4.ofNat (block.base.value + place) = Ipv4.ofNat (block.base.value + other)) :
    place = other := by
  have hvalue := value_ofNat h
  rw [heq, value_ofNat h'] at hvalue
  omega

end Balancer.Block
