/-
# `LoxScan.Proofs.Magnitudes` — finite doubles in the order of their patterns

A magnitude is so many places of some binade, and the value of each place is one power
of two (`units_shift`).  The last place of a binade is followed by the first of the
next, which is the same number of places counted on: that is why the values are in the
order of the patterns (`units_strictMono`), and why a carry out of the places needs no
case of its own.
-/
import Mathlib.Algebra.Order.Ring.Nat
import LoxScan.Binary64

namespace LoxScan.Binary64

theorem power_eq (base exponent : Nat) : power base exponent = base ^ exponent := rfl

theorem exponentUnit_eq : exponentUnit = 2 ^ 52 := rfl

theorem infinityBits_eq : infinityBits = 2047 * 2 ^ 52 := rfl

theorem signBit_eq : signBit = 2 ^ 63 := rfl

/-! ## Values by binades -/

theorem units_subnormal {m : Nat} (small : m < 2 ^ 52) : units m = m :=
  if_pos small

theorem units_normal {e f : Nat} (small : f < 2 ^ 52) :
    units ((e + 1) * 2 ^ 52 + f) = (2 ^ 52 + f) * 2 ^ e := by
  have large : ¬ (e + 1) * 2 ^ 52 + f < exponentUnit := by
    rw [exponentUnit_eq]
    omega
  have exponent : ((e + 1) * 2 ^ 52 + f) / 2 ^ 52 = e + 1 := by omega
  have fraction : ((e + 1) * 2 ^ 52 + f) % 2 ^ 52 = f := by omega
  rw [units, if_neg large, exponentUnit_eq, exponent, fraction, power_eq, Nat.add_sub_cancel]

/-- The value of `r` places of `2 ^ shift` units each.  All places but those of the finest binade
begin at `2 ^ 52`, and `2 ^ 53` of them are the first `2 ^ 52` of the next binade. -/
theorem units_shift {shift r : Nat} (least : shift = 0 ∨ 2 ^ 52 ≤ r) (most : r ≤ 2 ^ 53) :
    units (shift * 2 ^ 52 + r) = r * 2 ^ shift := by
  by_cases small : r < 2 ^ 52
  · obtain rfl : shift = 0 := by omega
    rw [Nat.zero_mul, Nat.zero_add, units_subnormal small, Nat.pow_zero, Nat.mul_one]
  · rcases Nat.eq_or_lt_of_le most with rfl | within
    · have carried : shift * 2 ^ 52 + 2 ^ 53 = (shift + 1 + 1) * 2 ^ 52 + 0 := by omega
      rw [carried, units_normal (by decide), Nat.pow_succ 2 shift]
      omega
    · have here : shift * 2 ^ 52 + r = (shift + 1) * 2 ^ 52 + (r - 2 ^ 52) := by omega
      have whole : 2 ^ 52 + (r - 2 ^ 52) = r := by omega
      rw [here, units_normal (by omega), whole]

/-- Every magnitude is some places of a binade. -/
theorem exists_shift (m : Nat) :
    ∃ shift r, m = shift * 2 ^ 52 + r ∧ (shift = 0 ∨ 2 ^ 52 ≤ r) ∧ r < 2 ^ 53 := by
  by_cases small : m < 2 ^ 53
  · exact ⟨0, m, by omega, Or.inl rfl, small⟩
  · exact ⟨m / 2 ^ 52 - 1, 2 ^ 52 + m % 2 ^ 52, by omega, by omega, by omega⟩

/-! ## Order -/

theorem units_lt_succ (m : Nat) : units m < units (m + 1) := by
  obtain ⟨shift, r, rfl, least, most⟩ := exists_shift m
  have next : shift = 0 ∨ 2 ^ 52 ≤ r + 1 := least.imp_right (Nat.le_succ_of_le ·)
  rw [units_shift least most.le, Nat.add_assoc, units_shift next most]
  exact Nat.mul_lt_mul_of_pos_right (Nat.lt_succ_self r) (Nat.two_pow_pos shift)

/-- The values of magnitudes are in the order of the magnitudes. -/
theorem units_strictMono : StrictMono units :=
  strictMono_nat_of_lt_succ units_lt_succ

end LoxScan.Binary64
