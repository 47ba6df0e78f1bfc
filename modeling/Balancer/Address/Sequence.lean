import Balancer.Pool.Error

/-!
# Sequences of addresses

The addresses of a block in ascending order, each given out once. The base of the block is
never given out, and an address is not taken back.
-/

namespace Balancer

/-- The addresses of a block from `next` places behind its base on. -/
structure AddressSequence where
  block : Block
  next : Nat := 1
  deriving DecidableEq

namespace AddressSequence

/-- The next address, and the sequence behind it. -/
def take (sequence : AddressSequence) : Except PoolError (Ipv4 × AddressSequence) :=
  if sequence.next < sequence.block.size then
    .ok (Ipv4.ofNat (sequence.block.base.value + sequence.next),
      { sequence with next := sequence.next + 1 })
  else .error (.blockExhausted sequence.block)

/-- The number of addresses still to come. -/
def remaining (sequence : AddressSequence) : Nat :=
  sequence.block.size - sequence.next

end AddressSequence

end Balancer
