import Mathlib
import Balancer.Proofs.Address.Interval
import Balancer.Proofs.Address.Masks
import Balancer.Proofs.Address.Notation
import Balancer.Proofs.Pool.Provisioning

/-!
# The addresses of a block in order

The base of the block around an address is the address rounded down to a multiple of the size. The
calls to the sequence of a block are answered with the numbers behind the base, one after the other,
up to the end of the block. Every further call is refused and changes nothing. The numbers do not
wrap at the limit of 32 bits, as no block reaches beyond it, and a block of one address has none to
give.
-/

namespace Balancer

namespace AddressSequence

/-- The answer to a call. -/
def answer (sequence : AddressSequence) : Except PoolError Ipv4 :=
  sequence.take.map (·.1)

/-- The sequence behind a call; a refused call leaves it as it is. -/
def advance (sequence : AddressSequence) : AddressSequence :=
  match sequence.take with
  | .ok (_, rest) => rest
  | .error _ => sequence

/-- The sequence behind so many calls. -/
def after (sequence : AddressSequence) : Nat → AddressSequence
  | 0 => sequence
  | calls + 1 => (sequence.after calls).advance

/-- The answers to so many calls in a row. -/
def answers (sequence : AddressSequence) : Nat → List (Except PoolError Ipv4)
  | 0 => []
  | calls + 1 => sequence.answers calls ++ [(sequence.after calls).answer]

variable {sequence : AddressSequence}

/-- A call in the block is answered with the next address, and moves on by one. -/
theorem call_of_lt (h : sequence.next < sequence.block.size) :
    sequence.answer = .ok (Ipv4.ofNat (sequence.block.base.value + sequence.next)) ∧
      sequence.advance = { sequence with next := sequence.next + 1 } := by
  simp [answer, advance, take, h, Except.map]

/-- A call at the end of the block is refused, and changes nothing. -/
theorem call_of_le (h : sequence.block.size ≤ sequence.next) :
    sequence.answer = .error (.blockExhausted sequence.block) ∧ sequence.advance = sequence := by
  simp [answer, advance, take, Nat.not_lt_of_le h, Except.map]

variable (block : Block)

/-- So many calls move a sequence on by as many places, as far as the block goes. -/
theorem after_eq (calls : Nat) :
    after { block } calls = { block, next := min (calls + 1) block.size } := by
  induction calls with
  | zero => simp [after, Nat.min_eq_left block.size_pos]
  | succ calls ih =>
    rw [after, ih]
    by_cases h : calls + 1 < block.size
    · rw [min_eq_left h.le, (call_of_lt h).2, min_eq_left h]
    · rw [min_eq_right (Nat.le_of_not_lt h), (call_of_le (Nat.le_refl _)).2,
        min_eq_right (by omega)]

/-- So many calls are answered with as many addresses behind the base, as far as the block goes, and
then refused. -/
theorem answers_eq (calls : Nat) :
    answers { block } calls =
      (List.range' 1 (min calls (block.size - 1))).map
          (fun place => .ok (Ipv4.ofNat (block.base.value + place))) ++
        List.replicate (calls - (block.size - 1)) (.error (.blockExhausted block)) := by
  induction calls with
  | zero => simp [answers]
  | succ calls ih =>
    rw [answers, ih, after_eq]
    by_cases h : calls + 1 < block.size
    · rw [min_eq_left h.le, (call_of_lt h).1, min_eq_left (by omega), min_eq_left (by omega),
        Nat.sub_eq_zero_of_le (by omega), Nat.sub_eq_zero_of_le (by omega), List.range'_1_concat,
        List.map_append, Nat.add_comm 1 calls]
      simp
    · rw [min_eq_right (Nat.le_of_not_lt h), (call_of_le (Nat.le_refl _)).1,
        min_eq_right (by omega), min_eq_right (by omega), Nat.succ_sub (by omega),
        List.replicate_succ', List.append_assoc]

/-- The addresses behind the base, as far as the block goes, are the numbers behind it. -/
theorem map_value_range {count : Nat} (h : count ≤ block.size - 1) :
    ((List.range' 1 count).map fun place => Ipv4.ofNat (block.base.value + place)).map Ipv4.value =
      List.range' (block.base.value + 1) count := by
  rw [List.map_map, ← List.map_add_range']
  apply List.map_congr_left
  intro place hplace
  obtain ⟨hpos, hlt⟩ := List.mem_range'_1.mp hplace
  have hfits : place < block.size := by omega
  exact Block.value_ofNat hfits

end AddressSequence

namespace Block

/-- Rounding down to a multiple gives the greatest multiple that is not above. -/
theorem isGreatest_div_mul {size value : Nat} (h : 0 < size) :
    IsGreatest {multiple | size ∣ multiple ∧ multiple ≤ value} (value / size * size) := by
  refine ⟨⟨Nat.dvd_mul_left size _, Nat.div_mul_le_self value size⟩, ?_⟩
  rintro _ ⟨⟨quotient, rfl⟩, hle⟩
  rw [Nat.mul_comm size] at hle ⊢
  exact Nat.mul_le_mul_right size ((Nat.le_div_iff_mul_le h).mpr hle)

/-- The block around an address has the greatest multiple of its size that is not above the address
as its base, which is what masking the address gives. It holds exactly the addresses from the base
up to the base and the size, which are those that the mask takes to the base. Its written form is
read as the block. Calls to its sequence are answered with the numbers behind the base in order and
without a gap up to the last one, and then refused, and as many addresses remain as were not given
out. -/
theorem addresses_exact (address : Ipv4) {length : Nat} (hlength : length ≤ 32) :
    ∃ block, around address length = .ok block ∧ block.length = length ∧
      block.size = 2 ^ (32 - length) ∧
      IsGreatest {base | block.size ∣ base ∧ base ≤ address.value} block.base.value ∧
      block.base.bits = address.bits &&& mask length ∧
      (∀ other, block.contains other = true ↔
        block.base.value ≤ other.value ∧ other.value < block.base.value + block.size) ∧
      (∀ other, block.contains other = true ↔ other.bits &&& mask length = block.base.bits) ∧
      ofText block.text = .ok block ∧
      ∀ calls, ∃ addresses : List Ipv4,
        addresses.map Ipv4.value =
          List.range' (block.base.value + 1) (min calls (block.size - 1)) ∧
        AddressSequence.answers { block } calls =
          addresses.map .ok ++
            List.replicate (calls - (block.size - 1)) (.error (.blockExhausted block)) ∧
        (AddressSequence.after { block } calls).remaining =
          block.size - 1 - addresses.length := by
  refine ⟨_, dif_pos hlength, rfl, rfl, isGreatest_div_mul (Nat.two_pow_pos _), ?_, ?_, ?_, ?_, ?_⟩
  · rw [← BitVec.toNat_inj, toNat_and_mask address hlength, Ipv4.toNat_bits]
  · exact contains_iff _
  · exact contains_iff_mask _
  · exact ofText_text _
  · intro calls
    refine ⟨_, AddressSequence.map_value_range _ (min_le_right _ _), ?_, ?_⟩
    · rw [AddressSequence.answers_eq, List.map_map]
      rfl
    · rw [AddressSequence.after_eq, AddressSequence.remaining, List.length_map, List.length_range']
      dsimp only
      omega

/-- The block of four addresses that ends at the last address of all gives three of them, and
refuses the calls behind. -/
theorem addresses_exact_topmost :
    ∃ block, around (Ipv4.ofNat 0xFFFFFFFE) 30 = .ok block ∧ block.text = "255.255.255.252/30" ∧
      ofText block.text = .ok block ∧ block.contains (Ipv4.ofNat 0xFFFFFFFF) = true ∧
      AddressSequence.answers { block } 5 =
        [.ok (Ipv4.ofNat 0xFFFFFFFD), .ok (Ipv4.ofNat 0xFFFFFFFE), .ok (Ipv4.ofNat 0xFFFFFFFF),
          .error (.blockExhausted block), .error (.blockExhausted block)] ∧
      (AddressSequence.after { block } 5).remaining = 0 := by
  obtain ⟨block, haround, -, -, -, -, hcontains, -, htext, hcalls⟩ :=
    addresses_exact (Ipv4.ofNat 0xFFFFFFFE) (show 30 ≤ 32 by decide)
  obtain ⟨addresses, hvalues, -, hremaining⟩ := hcalls 5
  cases haround
  have hlength := congrArg List.length hvalues
  rw [List.length_map] at hlength
  refine ⟨_, rfl, by decide, htext, (hcontains _).mpr (by decide), by decide, ?_⟩
  rw [hremaining, hlength]
  decide

end Block

end Balancer
