/-!
# Word sizes

How many numbers have a given count of bits.
-/

namespace Balancer

/-- The number of 16-bit numbers. -/
abbrev word16Count : Nat :=
  65536

/-- The number of 32-bit numbers. -/
abbrev word32Count : Nat :=
  4294967296

/-- The number of 64-bit numbers. -/
abbrev word64Count : Nat :=
  18446744073709551616

/-- The number of 128-bit numbers. -/
abbrev word128Count : Nat :=
  340282366920938463463374607431768211456

/-- Two to the given power. -/
abbrev twoPower (exponent : Nat) : Nat :=
  Nat.pow 2 exponent

end Balancer
