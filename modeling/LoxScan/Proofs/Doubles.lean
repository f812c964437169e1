/-
# `LoxScan.Proofs.Doubles` — the values of patterns

The fields of a pattern and its exact value, as the standard has them: a sign, an
exponent and a fraction, and a leading bit that a pattern without exponent bits lacks.
Without its sign a pattern is its magnitude, both fields are read off that
(`exponentField_eq`, `fractionField_eq`), and the value is the units of the magnitude
(`value_of_nonneg`, `value_of_neg`).
-/
import Mathlib.Algebra.Order.Field.Rat
import Mathlib.Tactic.NormNum
import LoxScan.Proofs.Magnitudes

namespace LoxScan.Binary64

/-! ## Fields -/

/-- The eleven bits of the exponent. -/
def exponentField (x : Binary64) : Nat :=
  x.bits.toNat / 2 ^ 52 % 2 ^ 11

/-- The fifty-two bits of the fraction. -/
def fractionField (x : Binary64) : Nat :=
  x.bits.toNat % 2 ^ 52

/-- A pattern has a value unless all bits of its exponent are set. -/
def IsFinite (x : Binary64) : Prop :=
  x.exponentField < 2047

/-- The value of a pattern, exactly. -/
def value (x : Binary64) : ℚ :=
  (if x.isNegative then -1 else 1) *
    if x.exponentField = 0 then x.fractionField * (2 : ℚ) ^ (-1074 : ℤ)
    else (2 ^ 52 + x.fractionField) * (2 : ℚ) ^ (x.exponentField - 1075 : ℤ)

/-- Positive infinity. -/
def infinity : Binary64 := ⟨0x7ff0000000000000⟩

section Fields

variable (x : Binary64)

theorem magnitude_lt : x.magnitude < 2 ^ 63 :=
  Nat.mod_lt _ (by decide)

/-- A pattern is its sign bit and its magnitude. -/
theorem toNat_bits : x.bits.toNat = (if x.isNegative then 2 ^ 63 else 0) + x.magnitude := by
  have bound : x.bits.toNat < 2 ^ 64 := x.bits.toNat_lt
  unfold magnitude isNegative
  rw [signBit_eq]
  split
  · next sign =>
    have := of_decide_eq_true sign
    omega
  · next sign =>
    have := mt decide_eq_true sign
    omega

theorem exponentField_eq : x.exponentField = x.magnitude / 2 ^ 52 := by
  have bound := x.magnitude_lt
  rw [exponentField, toNat_bits]
  split <;> omega

theorem fractionField_eq : x.fractionField = x.magnitude % 2 ^ 52 := by
  rw [fractionField, toNat_bits]
  split <;> omega

theorem isFinite_iff : x.IsFinite ↔ x.magnitude < infinityBits := by
  rw [IsFinite, exponentField_eq, infinityBits_eq]
  omega

end Fields

/-! ## Patterns of magnitudes -/

/-- The pattern of a magnitude, without a sign. -/
def ofMagnitude (m : Nat) : Binary64 := ⟨UInt64.ofNat m⟩

section OfMagnitude

variable {x y : Binary64} {m : Nat}

theorem toNat_ofMagnitude (le : m ≤ infinityBits) : (ofMagnitude m).bits.toNat = m := by
  rw [infinityBits_eq] at le
  exact UInt64.toNat_ofNat_of_lt' (show m < 2 ^ 64 by omega)

theorem magnitude_ofMagnitude (le : m ≤ infinityBits) : (ofMagnitude m).magnitude = m := by
  rw [magnitude, toNat_ofMagnitude le, signBit_eq]
  rw [infinityBits_eq] at le
  omega

theorem isNegative_ofMagnitude (le : m ≤ infinityBits) : (ofMagnitude m).isNegative = false := by
  rw [isNegative, toNat_ofMagnitude le, signBit_eq, decide_eq_false_iff_not]
  rw [infinityBits_eq] at le
  omega

theorem isFinite_ofMagnitude (less : m < infinityBits) : (ofMagnitude m).IsFinite := by
  rw [isFinite_iff, magnitude_ofMagnitude less.le]
  exact less

/-- Without a sign, a pattern is known by its magnitude. -/
theorem eq_of_magnitude_eq (sign : x.isNegative = false) (sign' : y.isNegative = false)
    (same : x.magnitude = y.magnitude) : x = y := by
  have bits : x.bits.toNat = y.bits.toNat := by
    rw [toNat_bits x, toNat_bits y, sign, sign', same]
  obtain ⟨bits'⟩ := x
  obtain ⟨bits''⟩ := y
  exact congrArg Binary64.mk (UInt64.toNat_inj.1 bits)

theorem eq_infinity_iff (sign : x.isNegative = false) :
    x = infinity ↔ x.magnitude = infinityBits := by
  constructor
  · rintro rfl
    decide
  · intro same
    exact eq_of_magnitude_eq sign (by decide) (same.trans (by decide))

end OfMagnitude

/-! ## Values -/

section Value

variable {x : Binary64}

/-- The value of the fields of a magnitude is its number of units. -/
theorem fields_eq_units (m : Nat) :
    (if m / 2 ^ 52 = 0 then ((m % 2 ^ 52 : Nat) : ℚ) * 2 ^ (-1074 : ℤ)
      else (2 ^ 52 + (m % 2 ^ 52 : Nat)) * 2 ^ ((m / 2 ^ 52 : Nat) - 1075 : ℤ)) =
      units m / 2 ^ 1074 := by
  have unit : (2 : ℚ) ^ (-1074 : ℤ) = 1 / 2 ^ 1074 := by
    rw [zpow_neg, one_div]
    rfl
  split
  · next small =>
    have small : m < 2 ^ 52 := by omega
    rw [units_subnormal small, Nat.mod_eq_of_lt small, unit, mul_one_div]
  · next large =>
    obtain ⟨e, exponent⟩ := Nat.exists_eq_add_one_of_ne_zero large
    have split : m = (e + 1) * 2 ^ 52 + m % 2 ^ 52 := by omega
    have places : (2 : ℚ) ^ (((e + 1 : Nat) : ℤ) - 1075) = 2 ^ e * (1 / 2 ^ 1074) := by
      rw [← unit, ← zpow_natCast, ← zpow_add₀ two_ne_zero]
      congr 1
      omega
    have small : m % 2 ^ 52 < 2 ^ 52 := Nat.mod_lt _ (by decide)
    generalize m % 2 ^ 52 = f at *
    rw [exponent, places, split, units_normal small, ← mul_assoc, mul_one_div]
    push_cast
    rfl

theorem value_of_nonneg (sign : x.isNegative = false) :
    x.value = units x.magnitude / 2 ^ 1074 := by
  rw [value, sign, exponentField_eq, fractionField_eq, fields_eq_units, if_neg Bool.false_ne_true,
    one_mul]

theorem value_of_neg (sign : x.isNegative = true) :
    x.value = -(units x.magnitude / 2 ^ 1074) := by
  rw [value, sign, exponentField_eq, fractionField_eq, fields_eq_units, if_pos rfl, neg_one_mul]

theorem value_ofMagnitude {m : Nat} (le : m ≤ infinityBits) :
    (ofMagnitude m).value = units m / 2 ^ 1074 := by
  rw [value_of_nonneg (isNegative_ofMagnitude le), magnitude_ofMagnitude le]

end Value

end LoxScan.Binary64
