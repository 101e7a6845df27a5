/-!
# Binary floating-point numbers

A number of the IEEE 754 format with 64 bits, held as its bits.  A finite one is
`m · 2^q` up to its sign, for the integers that `parts` gives.
-/

namespace Publishing

/-- A 64-bit binary floating-point number, as its bits. -/
@[ext] structure Binary64 where
  bits : UInt64
deriving DecidableEq, Inhabited

namespace Binary64

/-- The bits of a machine number. -/
def ofFloat (x : Float) : Binary64 := ⟨x.toBits⟩

/-- The number nearest to an integer. -/
def ofInt (n : Int) : Binary64 := ofFloat (Float.ofInt n)

/-- Whether the sign bit is set. -/
def isNegative (x : Binary64) : Bool :=
  decide (Nat.pow 2 63 ≤ x.bits.toNat)

/-- The eleven exponent bits. -/
def exponentBits (x : Binary64) : Nat :=
  x.bits.toNat / Nat.pow 2 52 % Nat.pow 2 11

/-- The fifty-two fraction bits. -/
def fractionBits (x : Binary64) : Nat :=
  x.bits.toNat % Nat.pow 2 52

/-- The integers `m` and `q` for which a finite number is `m · 2^q` up to its sign. -/
def parts (x : Binary64) : Nat × Int :=
  if x.exponentBits = 0 then (x.fractionBits, -1074)
  else (Nat.pow 2 52 + x.fractionBits, (x.exponentBits : Int) - 1075)

end Binary64

end Publishing
