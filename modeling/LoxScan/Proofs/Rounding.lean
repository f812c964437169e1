/-
# `LoxScan.Proofs.Rounding` — how far up a number is rounded

Between two magnitudes that follow each other lies a boundary, halfway between their
values, and a number on the boundary goes to the even one.  `Reaches m u` says that `u`
units are rounded to `m` or beyond.  It speaks of one boundary only and does not know
how rounding is computed.

What is proved of the computation is one equivalence: the magnitudes up to the rounded
one are those that the number reaches (`le_nearestMagnitude_iff`).  Everything else
about rounding follows from it, because reaching is monotone in the number
(`Reaches.mono`) and antitone in the magnitude (`Reaches.of_le`).
-/
import Mathlib.Data.Rat.Cast.Order
import Mathlib.Tactic.FieldSimp
import Mathlib.Tactic.Linarith
import Mathlib.Tactic.Ring
import LoxScan.Proofs.Magnitudes

namespace LoxScan.Binary64

/-! ## Boundaries -/

/-- The number of units that a number is. -/
def unitsOf (q : ℚ) : ℚ :=
  q * 2 ^ 1074

theorem unitsOf_mono {p q : ℚ} (le : p ≤ q) : unitsOf p ≤ unitsOf q :=
  mul_le_mul_of_nonneg_right le (pow_nonneg zero_le_two 1074)

/-- A number of units is at least what is rounded to a magnitude: it lies above the boundary below
that magnitude, or on the boundary if the magnitude is even. -/
def Reaches : Nat → ℚ → Prop
  | 0, _ => True
  | m + 1, u =>
    (units m + units (m + 1) : ℚ) < 2 * u ∨
      (units m + units (m + 1) : ℚ) = 2 * u ∧ (m + 1) % 2 = 0

section Reaches

variable {m k : Nat} {u v : ℚ}

theorem units_cast_lt (less : m < k) : (units m : ℚ) < units k :=
  Nat.cast_lt.2 (units_strictMono less)

theorem units_cast_le (le : m ≤ k) : (units m : ℚ) ≤ units k :=
  Nat.cast_le.2 (units_strictMono.monotone le)

theorem Reaches.le (reaches : Reaches (m + 1) u) : (units m + units (m + 1) : ℚ) ≤ 2 * u := by
  rcases reaches with above | ⟨on, -⟩
  · exact above.le
  · exact on.le

/-- What is not less than the value of a magnitude reaches it. -/
theorem reaches_of_units_le (le : units m ≤ u) : Reaches m u := by
  cases m with
  | zero => trivial
  | succ m =>
    have below := units_cast_lt (Nat.lt_succ_self m)
    exact Or.inl (by linarith)

/-- What is less than the value of a magnitude does not reach beyond it. -/
theorem not_reaches_of_lt (less : u < units m) : ¬ Reaches (m + 1) u := by
  intro reaches
  have beyond := units_cast_lt (Nat.lt_succ_self m)
  linarith [reaches.le]

theorem Reaches.of_le (reaches : Reaches m u) (le : k ≤ m) : Reaches k u := by
  rcases Nat.eq_or_lt_of_le le with rfl | less
  · exact reaches
  · obtain ⟨m, rfl⟩ := Nat.exists_eq_add_one_of_ne_zero (Nat.ne_zero_of_lt less)
    have below := units_cast_le (Nat.le_of_lt_succ less)
    have between := units_cast_lt (Nat.lt_succ_self m)
    exact reaches_of_units_le (by linarith [reaches.le])

theorem Reaches.mono (reaches : Reaches m u) (le : u ≤ v) : Reaches m v := by
  cases m with
  | zero => trivial
  | succ m =>
    rcases reaches with above | ⟨on, even⟩
    · exact Or.inl (by linarith)
    · rcases eq_or_lt_of_le le with rfl | less
      · exact Or.inr ⟨on, even⟩
      · exact Or.inl (by linarith)

/-- What lies between two magnitudes that follow each other reaches those up to the lower one, and
the upper one too if it reaches that. -/
theorem le_ite_reaches_iff (above : units k ≤ u) (below : u < units (k + 1))
    [Decidable (Reaches (k + 1) u)] :
    m ≤ (if Reaches (k + 1) u then k + 1 else k) ↔ Reaches m u := by
  have least : Reaches k u := reaches_of_units_le above
  have most : ¬ Reaches (k + 1 + 1) u := not_reaches_of_lt below
  split
  · next reaches =>
    refine ⟨reaches.of_le, fun here => ?_⟩
    by_contra beyond
    exact most (here.of_le (Nat.lt_of_not_le beyond))
  · next stops =>
    refine ⟨least.of_le, fun here => ?_⟩
    by_contra beyond
    exact stops (here.of_le (Nat.lt_of_not_le beyond))

end Reaches

/-! ## The computation -/

section Round

variable {num den shift : Nat}

/-- The places that are kept of a quotient are enough, and fit. -/
theorem div_shift (num den : Nat) (shift : Nat) (fits : shift = (num / den).log2 - 52) :
    (shift = 0 ∨ 2 ^ 52 ≤ num / (den * 2 ^ shift)) ∧ num / (den * 2 ^ shift) < 2 ^ 53 := by
  have high : num / den < 2 ^ ((num / den).log2 + 1) := Nat.lt_log2_self
  rw [← Nat.div_div_eq_div_mul, Nat.div_lt_iff_lt_mul (Nat.two_pow_pos shift),
    Nat.le_div_iff_mul_le (Nat.two_pow_pos shift), ← Nat.pow_add, ← Nat.pow_add]
  refine ⟨?_, high.trans_le (Nat.pow_le_pow_right (by decide) (by omega))⟩
  by_cases large : 52 < (num / den).log2
  · have nonzero : num / den ≠ 0 := by
      intro none
      rw [none, Nat.log2_zero] at large
      omega
    have log : 52 + shift = (num / den).log2 := by omega
    rw [log]
    exact Or.inr (Nat.log2_self_le nonzero)
  · exact Or.inl (by omega)

/-- The boundary above the places that are kept of a quotient is decided by what is left. -/
theorem reaches_next_iff (pos : 0 < den) (least : shift = 0 ∨ 2 ^ 52 ≤ num / (den * 2 ^ shift))
    (most : num / (den * 2 ^ shift) < 2 ^ 53) :
    Reaches (shift * 2 ^ 52 + num / (den * 2 ^ shift) + 1) ((num : ℚ) / den) ↔
      ¬ (2 * (num % (den * 2 ^ shift)) < den * 2 ^ shift ∨
        2 * (num % (den * 2 ^ shift)) = den * 2 ^ shift ∧ num / (den * 2 ^ shift) % 2 = 0) := by
  have split := Nat.div_add_mod num (den * 2 ^ shift)
  have here := units_shift least most.le
  have next := units_shift (least.imp_right (Nat.le_succ_of_le ·)) most
  generalize num / (den * 2 ^ shift) = kept at *
  generalize num % (den * 2 ^ shift) = left at *
  have positive : (0 : ℚ) < den := Nat.cast_pos.2 pos
  -- twice the boundary and twice the number, both times the denominator
  have boundary : (units (shift * 2 ^ 52 + kept) + units (shift * 2 ^ 52 + (kept + 1)) : ℚ) * den =
      ((2 * kept + 1) * (den * 2 ^ shift) : Nat) := by
    rw [here, next]
    push_cast
    ring
  have number : 2 * ((num : ℚ) / den) * den = (2 * (den * 2 ^ shift * kept + left) : Nat) := by
    rw [split, mul_assoc, div_mul_cancel₀ _ positive.ne', Nat.cast_mul, Nat.cast_ofNat]
  have twice : (2 * kept + 1) * (den * 2 ^ shift) =
      2 * (den * 2 ^ shift * kept) + den * 2 ^ shift := by ring
  rw [Reaches, ← mul_lt_mul_iff_left₀ positive, ← mul_left_inj' positive.ne', Nat.add_assoc,
    boundary, number, Nat.cast_lt, Nat.cast_inj, twice]
  generalize den * 2 ^ shift = whole at *
  omega

/-- Rounding the places that are kept of a quotient gives the greatest magnitude reached. -/
theorem le_rounded_iff (pos : 0 < den) (fits : shift = (num / den).log2 - 52) (m : Nat) :
    m ≤ shift * 2 ^ 52 + roundDiv num (den * 2 ^ shift) ↔ Reaches m ((num : ℚ) / den) := by
  classical
  obtain ⟨least, most⟩ := div_shift num den shift fits
  have positive : (0 : ℚ) < den := Nat.cast_pos.2 pos
  have above : (units (shift * 2 ^ 52 + num / (den * 2 ^ shift)) : ℚ) ≤ num / den := by
    have kept := Nat.div_mul_le_self num (den * 2 ^ shift)
    rw [units_shift least most.le, le_div_iff₀ positive, ← Nat.cast_mul, Nat.cast_le]
    linarith
  have below : (num : ℚ) / den < units (shift * 2 ^ 52 + num / (den * 2 ^ shift) + 1) := by
    have next := Nat.lt_mul_div_succ num (Nat.mul_pos pos (Nat.two_pow_pos shift))
    rw [Nat.add_assoc, units_shift (least.imp_right (Nat.le_succ_of_le ·)) most,
      div_lt_iff₀ positive, ← Nat.cast_mul, Nat.cast_lt]
    linarith
  have next := reaches_next_iff pos least most
  rw [← le_ite_reaches_iff above below]
  by_cases down : 2 * (num % (den * 2 ^ shift)) < den * 2 ^ shift ∨
      2 * (num % (den * 2 ^ shift)) = den * 2 ^ shift ∧ num / (den * 2 ^ shift) % 2 = 0
  · have rounds : roundDiv num (den * 2 ^ shift) = num / (den * 2 ^ shift) := if_pos down
    rw [if_neg fun reaches => next.1 reaches down, rounds]
  · have rounds : roundDiv num (den * 2 ^ shift) = num / (den * 2 ^ shift) + 1 := if_neg down
    rw [if_pos (next.2 down), rounds, Nat.add_assoc]

theorem div_mul_two_pow (num den exponent : Nat) :
    (num : ℚ) / den * 2 ^ exponent = (num * power 2 exponent : Nat) / den := by
  rw [power_eq, Nat.cast_mul, Nat.cast_pow, Nat.cast_ofNat, mul_div_right_comm]

/-- The magnitudes up to the rounded one are those that the number reaches, and infinity is the last
of all. -/
theorem le_nearestMagnitude_iff (pos : 0 < den) (m : Nat) :
    m ≤ nearestMagnitude num den ↔
      m ≤ infinityBits ∧ Reaches m (unitsOf (num / den)) := by
  rw [unitsOf, div_mul_two_pow, ← le_rounded_iff pos rfl, and_comm]
  exact Nat.le_min

end Round

end LoxScan.Binary64
