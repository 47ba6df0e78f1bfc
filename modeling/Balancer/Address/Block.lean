import Balancer.Address.Ipv4

/-!
# Address blocks

A block holds the addresses that share the first `length` bits. Its size is a power of two and
its base a multiple of the size. The written form is the base, a slash and the length; a block
is also read from any other address in it.
-/

namespace Balancer

/-- An aligned block of IPv4 addresses. -/
structure Block where
  base : Ipv4
  length : Nat
  length_le : length ≤ 32
  aligned : base.value % twoPower (32 - length) = 0
  deriving DecidableEq

/-- Why a text does not describe a block. -/
inductive BlockError where
  | noSlash (text : String)
  | badAddress (text : String)
  | badLength (text : String)
  | lengthTooLarge (length : Nat)
  deriving DecidableEq

/-- The text of a block error. -/
def BlockError.message : BlockError → String
  | .noSlash text => "invalid CIDR prefix: missing '/' in CIDR: " ++ text
  | .badAddress text => "invalid IP address: " ++ text
  | .badLength text => "invalid CIDR prefix: " ++ text
  | .lengthTooLarge length =>
    "invalid CIDR prefix: prefix length " ++ toString length ++ " exceeds 32"

namespace Block

/-- The number of addresses in a block. -/
def size (block : Block) : Nat :=
  twoPower (32 - block.length)

/-- The block of a given length around an address, with the part of the address behind the
length set to zero. -/
def around (address : Ipv4) (length : Nat) : Except BlockError Block :=
  if h : length ≤ 32 then
    .ok
      { base :=
          { value := address.value / twoPower (32 - length) * twoPower (32 - length)
            value_lt := Nat.lt_of_le_of_lt (Nat.div_mul_le_self _ _) address.value_lt }
        length
        length_le := h
        aligned := Nat.mul_mod_left _ _ }
  else .error (.lengthTooLarge length)

/-- Read a block; the address is checked before the length. -/
def ofText (text : String) : Except BlockError Block :=
  match Text.cut '/' text with
  | none => .error (.noSlash text)
  | some (addressText, lengthText) =>
    match Ipv4.ofText? addressText with
    | none => .error (.badAddress addressText)
    | some address =>
      match Text.readNumeral 256 lengthText with
      | .error _ => .error (.badLength lengthText)
      | .ok length => around address length

/-- The written form of a block. -/
def text (block : Block) : String :=
  block.base.text ++ "/" ++ toString block.length

/-- Whether an address lies in a block: it shares the block's part of the bits. -/
def contains (block : Block) (address : Ipv4) : Bool :=
  decide (address.value / block.size * block.size = block.base.value)

/-- A block has addresses. -/
theorem size_pos (block : Block) : 0 < block.size :=
  Nat.two_pow_pos _

/-- The whole block is made of addresses. -/
theorem base_add_size_le (block : Block) : block.base.value + block.size ≤ word32Count := by
  obtain ⟨q, hq⟩ := Nat.dvd_of_mod_eq_zero block.aligned
  have hsize : block.size * twoPower block.length = word32Count := by
    simp only [size, twoPower, Nat.pow_eq]
    rw [← Nat.pow_add, Nat.sub_add_cancel block.length_le]
  have hlt : block.size * q < block.size * twoPower block.length := by
    rw [hsize, size, ← hq]
    exact block.base.value_lt
  have hq' : q + 1 ≤ twoPower block.length := Nat.lt_of_mul_lt_mul_left hlt
  calc block.base.value + block.size = block.size * (q + 1) := by
        rw [hq, Nat.mul_add, Nat.mul_one]
        rfl
    _ ≤ block.size * twoPower block.length := Nat.mul_le_mul_left _ hq'
    _ = word32Count := hsize

end Block

end Balancer
