/-
# `LoxScan.Binary64` — double-precision numbers as bit patterns

A number is its IEEE 754 bit pattern, and its value is exact: `Binary64.units`
counts the least positive double, so every finite magnitude is a natural number
of units and no rounding happens except where `nearestMagnitude` says so.  The
patterns of the non-negative doubles are in the order of their values, infinity
last, which lets "the nearest double" be computed as "the nearest pattern": the
bits of the exponent are what a carry out of the fraction runs into.
-/

namespace LoxScan

/-- A double, by its sixty-four bits: sign, eleven of exponent, fifty-two of fraction. -/
structure Binary64 where
  bits : UInt64
deriving DecidableEq

namespace Binary64

/-! ## Reading a pattern -/

/-- Powers of natural numbers, by the one function that they are computed with. -/
def power (base exponent : Nat) : Nat :=
  Nat.pow base exponent

/-- The sign bit. -/
def signBit : Nat := 0x8000000000000000

/-- The lowest bit of the exponent, which is also the leading bit that a fraction is short of. -/
def exponentUnit : Nat := 0x10000000000000

/-- The magnitude of positive infinity: all bits of the exponent and none of the fraction. -/
def infinityBits : Nat := 0x7ff0000000000000

/-- The pattern without its sign bit. -/
def magnitude (x : Binary64) : Nat :=
  x.bits.toNat % signBit

/-- Whether the sign bit is set. -/
def isNegative (x : Binary64) : Bool :=
  signBit ≤ x.bits.toNat

/-- Whether the pattern is no number. -/
def isNaN (x : Binary64) : Bool :=
  infinityBits < x.magnitude

/-- The value of a finite magnitude, counted in units of `2 ^ -1074`. -/
def units (m : Nat) : Nat :=
  if m < exponentUnit then m
  else (exponentUnit + m % exponentUnit) * power 2 (m / exponentUnit - 1)

/-- The one pattern that stands for all that are no number; every other pattern is itself. -/
def canonical (x : Binary64) : Binary64 :=
  if x.isNaN then ⟨0x7ff8000000000000⟩ else x

/-- Equality of values: the two zeros are equal, and what is no number equals nothing. -/
def equal (x y : Binary64) : Bool :=
  !x.isNaN && !y.isNaN && (x.bits == y.bits || (x.magnitude == 0 && y.magnitude == 0))

/-! ## Rounding -/

/-- The natural number nearest to `num / den`; halfway, the even one. -/
def roundDiv (num den : Nat) : Nat :=
  let quotient := num / den
  let twice := 2 * (num % den)
  if twice < den ∨ (twice = den ∧ quotient % 2 = 0) then quotient else quotient + 1

/-- The magnitude nearest to `num / den`; halfway, the even one, and infinity from halfway above
the largest finite double on.

With `shift` the number of binary places that do not fit into the fifty-three kept ones, the
quotient in units of `2 ^ (shift - 1074)` is rounded, and a carry moves on to the next exponent by
itself. -/
def nearestMagnitude (num den : Nat) : Nat :=
  let scaled := num * power 2 1074
  let shift := (scaled / den).log2 - 52
  min (shift * exponentUnit + roundDiv scaled (den * power 2 shift)) infinityBits

/-- The double nearest to the non-negative number `num / den`. -/
def nearest (num den : Nat) : Binary64 :=
  ⟨UInt64.ofNat (nearestMagnitude num den)⟩

end Binary64

end LoxScan
