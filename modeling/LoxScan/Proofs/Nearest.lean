/-
# `LoxScan.Proofs.Nearest` — numbers are rounded to the nearest double

`RoundsTo q x` says what it is to round: no finite double is nearer to `q` than `x`,
and of two that are equally near `x` is the one whose fraction is even; from halfway
above the greatest finite double on, `x` is infinity.  It compares with all doubles,
and knows nothing of neighbours or boundaries.

The link is that to be rounded to a double is to reach the magnitudes up to its own and
no others (`RoundsTo.le_iff`, and `roundsTo_of_le_iff` the other way round).  With
`le_nearestMagnitude_iff` the computation rounds (`roundsTo_nearest`); that a number is
rounded to one double only (`RoundsTo.unique`), that a greater number is not rounded to
a smaller double (`RoundsTo.magnitude_mono`), that what lies between two numbers that
are rounded alike is rounded like them (`RoundsTo.between`), and that a value is rounded
to its own double (`roundsTo_value`) are then facts about reaching.
-/
import Mathlib.Algebra.Order.Field.Basic
import Mathlib.Algebra.Order.Ring.Abs
import LoxScan.Proofs.Doubles
import LoxScan.Proofs.Rounding

namespace LoxScan.Binary64

/-! ## Rounding -/

/-- A number, not negative, is rounded to a double: to the nearest, of two equally near to the one
with the even fraction, and to infinity from halfway above the greatest finite double on. -/
structure RoundsTo (q : ℚ) (x : Binary64) : Prop where
  nonneg : 0 ≤ q
  noSign : x.isNegative = false
  isNumber : x.isNaN = false
  infinity_iff : x = infinity ↔ 2 ^ 1024 - 2 ^ 970 ≤ q
  nearest : x.IsFinite → ∀ y : Binary64, y.IsFinite → |x.value - q| ≤ |y.value - q|
  even : x.IsFinite → ∀ y : Binary64, y.IsFinite → y.value ≠ x.value →
    |y.value - q| = |x.value - q| → x.fractionField % 2 = 0

/-! ## Near magnitudes -/

/-- Of two numbers, the lower one is as near as the upper one up to halfway between them. -/
theorem abs_sub_le_iff_of_lt {a b u : ℚ} (less : a < b) : |a - u| ≤ |b - u| ↔ 2 * u ≤ a + b := by
  have product : (b - u) ^ 2 - (a - u) ^ 2 = (b - a) * (a + b - 2 * u) := by ring
  rw [← sq_le_sq, ← sub_nonneg, product, mul_nonneg_iff_of_pos_left (sub_pos.2 less), sub_nonneg]

/-- The upper one is as near from halfway on. -/
theorem abs_sub_le_iff_of_gt {a b u : ℚ} (less : a < b) : |b - u| ≤ |a - u| ↔ a + b ≤ 2 * u := by
  have product : (a - u) ^ 2 - (b - u) ^ 2 = (b - a) * (2 * u - (a + b)) := by ring
  rw [← sq_le_sq, ← sub_nonneg, product, mul_nonneg_iff_of_pos_left (sub_pos.2 less), sub_nonneg]

theorem abs_sub_eq_iff_of_lt {a b u : ℚ} (less : a < b) : |a - u| = |b - u| ↔ a + b = 2 * u := by
  rw [le_antisymm_iff, le_antisymm_iff, abs_sub_le_iff_of_lt less, abs_sub_le_iff_of_gt less,
    and_comm]

/-- Of two magnitudes, the first is the one to round a number of units to: it is as near as the
other one, and even if both are equally near. -/
def Preferred (u : ℚ) (m k : Nat) : Prop :=
  |(units m : ℚ) - u| ≤ |(units k : ℚ) - u| ∧
    (k ≠ m → |(units k : ℚ) - u| = |(units m : ℚ) - u| → m % 2 = 0)

section Preferred

variable {m k : Nat} {u : ℚ}

theorem reaches_of_preferred (preferred : Preferred u (m + 1) m) : Reaches (m + 1) u := by
  obtain ⟨near, even⟩ := preferred
  have next := units_cast_lt (Nat.lt_succ_self m)
  rcases eq_or_lt_of_le ((abs_sub_le_iff_of_gt next).1 near) with on | above
  · exact Or.inr ⟨on, even (Nat.ne_of_lt (Nat.lt_succ_self m)) ((abs_sub_eq_iff_of_lt next).2 on)⟩
  · exact Or.inl above

theorem not_reaches_of_preferred (preferred : Preferred u m (m + 1)) : ¬ Reaches (m + 1) u := by
  obtain ⟨near, even⟩ := preferred
  have next := units_cast_lt (Nat.lt_succ_self m)
  rintro (above | ⟨on, odd⟩)
  · exact absurd ((abs_sub_le_iff_of_lt next).1 near) (not_le.2 above)
  · have := even (Nat.ne_of_gt (Nat.lt_succ_self m)) ((abs_sub_eq_iff_of_lt next).2 on).symm
    omega

/-- A magnitude that is reached and not passed is preferred to every other one: the boundary to its
neighbour lies between the number and any magnitude on that side. -/
theorem preferred_of_reaches (reaches : Reaches m u) (stops : ¬ Reaches (m + 1) u) (k : Nat) :
    Preferred u m k := by
  rcases Nat.lt_trichotomy k m with below | rfl | beyond
  · obtain ⟨m, rfl⟩ := Nat.exists_eq_add_one_of_ne_zero (Nat.ne_zero_of_lt below)
    have less := units_cast_lt below
    have neighbour := units_cast_le (Nat.le_of_lt_succ below)
    refine ⟨(abs_sub_le_iff_of_gt less).2 (by linarith [reaches.le]), fun _ tie => ?_⟩
    have on := (abs_sub_eq_iff_of_lt less).1 tie
    rcases reaches with above | ⟨-, even⟩
    · linarith
    · exact even
  · exact ⟨le_rfl, fun different => absurd rfl different⟩
  · have less := units_cast_lt beyond
    have neighbour := units_cast_le (Nat.succ_le_of_lt beyond)
    obtain ⟨notAbove, notOn⟩ := not_or.1 stops
    have le := not_lt.1 notAbove
    refine ⟨(abs_sub_le_iff_of_lt less).2 (by linarith), fun _ tie => ?_⟩
    have on := (abs_sub_eq_iff_of_lt less).1 tie.symm
    have odd := not_and.1 notOn (by linarith)
    omega

end Preferred

/-! ## Rounding is reaching -/

section RoundsTo

variable {q : ℚ} {x y : Binary64} {m : Nat}

/-- Distances are as many units. -/
theorem abs_div_sub (a q : ℚ) : |a / 2 ^ 1074 - q| = |a - unitsOf q| / 2 ^ 1074 := by
  have positive : (0 : ℚ) < 2 ^ 1074 := pow_pos two_pos 1074
  unfold unitsOf
  generalize (2 : ℚ) ^ 1074 = unit at *
  have scaled : a / unit - q = (a - q * unit) / unit := by
    rw [sub_div, mul_div_cancel_right₀ q positive.ne']
  rw [scaled, abs_div, abs_of_pos positive]

/-- The boundary at the end of a binade lies as many places up as two binades have, less one. -/
theorem reaches_binadeEnd_iff (shift : Nat) (u : ℚ) :
    Reaches (shift * 2 ^ 52 + 2 ^ 53) u ↔ (2 ^ 54 - 1) * 2 ^ shift ≤ 2 * u := by
  have end' : shift * 2 ^ 52 + 2 ^ 53 = shift * 2 ^ 52 + (2 ^ 53 - 1) + 1 := by omega
  have even : (shift * 2 ^ 52 + (2 ^ 53 - 1) + 1) % 2 = 0 := by omega
  rw [end', Reaches, and_iff_left even, ← le_iff_lt_or_eq, ← end',
    units_shift (Or.inr (by decide)) (by decide), units_shift (Or.inr (by decide)) le_rfl,
    ← Nat.cast_add, ← Nat.add_mul, Nat.cast_mul, Nat.cast_pow 2 shift]
  norm_num

theorem halfway_le_iff (a b : Nat) (q : ℚ) :
    (2 ^ 54 - 1) * 2 ^ (a + b + 1) ≤ 2 * (q * 2 ^ b) ↔ 2 ^ (54 + a) - 2 ^ a ≤ q := by
  have positive : (0 : ℚ) < 2 * 2 ^ b := mul_pos two_pos (pow_pos two_pos b)
  have places : ((2 : ℚ) ^ 54 - 1) * 2 ^ (a + b + 1) = (2 ^ (54 + a) - 2 ^ a) * (2 * 2 ^ b) := by
    ring
  have number : 2 * (q * 2 ^ b) = q * (2 * 2 ^ b) := by ring
  rw [places, number, mul_le_mul_iff_left₀ positive]

/-- From halfway above the greatest finite magnitude on, a number reaches infinity. -/
theorem reaches_infinityBits_iff : Reaches infinityBits (unitsOf q) ↔ 2 ^ 1024 - 2 ^ 970 ≤ q :=
  (reaches_binadeEnd_iff 2045 (unitsOf q)).trans (halfway_le_iff 970 1074 q)

theorem isNaN_eq_false_iff : x.isNaN = false ↔ x.magnitude ≤ infinityBits := by
  rw [isNaN, decide_eq_false_iff_not, not_lt]

theorem fractionField_mod_two (x : Binary64) : x.fractionField % 2 = x.magnitude % 2 := by
  rw [fractionField_eq]
  omega

theorem units_div_inj {k : Nat} : (units m : ℚ) / 2 ^ 1074 = units k / 2 ^ 1074 ↔ m = k := by
  rw [div_left_inj' (pow_ne_zero 1074 two_ne_zero), Nat.cast_inj, units_strictMono.injective.eq_iff]

/-- To be nearer in value is to be nearer in units. -/
theorem preferred_iff {k : Nat} :
    Preferred (unitsOf q) m k ↔
      |(units m : ℚ) / 2 ^ 1074 - q| ≤ |(units k : ℚ) / 2 ^ 1074 - q| ∧
        (k ≠ m → |(units k : ℚ) / 2 ^ 1074 - q| = |(units m : ℚ) / 2 ^ 1074 - q| → m % 2 = 0) := by
  have positive : (0 : ℚ) < 2 ^ 1074 := pow_pos two_pos 1074
  rw [abs_div_sub, abs_div_sub, div_le_div_iff_of_pos_right positive, div_left_inj' positive.ne',
    Preferred]

theorem units_zero_div : (units 0 : ℚ) / 2 ^ 1074 = 0 := by
  rw [units_subnormal (by decide), Nat.cast_zero, zero_div]

/-- A finite double is no nearer to a number that is not negative than some finite magnitude is, and
as near only if it has the value of that magnitude. -/
theorem exists_units_le (nonneg : 0 ≤ q) (finite : y.IsFinite) :
    ∃ k < infinityBits, |(units k : ℚ) / 2 ^ 1074 - q| ≤ |y.value - q| ∧
      (|y.value - q| = |(units k : ℚ) / 2 ^ 1074 - q| → y.value = units k / 2 ^ 1074) := by
  cases sign : y.isNegative with
  | false =>
    rw [value_of_nonneg sign]
    exact ⟨y.magnitude, (isFinite_iff y).1 finite, le_rfl, fun _ => rfl⟩
  | true =>
    -- zero is on the way
    have below : (0 : ℚ) ≤ units y.magnitude / 2 ^ 1074 :=
      div_nonneg (Nat.cast_nonneg _) (pow_nonneg zero_le_two 1074)
    refine ⟨0, by decide, ?_⟩
    rw [value_of_neg sign, units_zero_div]
    generalize (units y.magnitude : ℚ) / 2 ^ 1074 = v at *
    rw [zero_sub, abs_neg, abs_of_nonneg nonneg, abs_sub_comm, sub_neg_eq_add,
      abs_of_nonneg (add_nonneg nonneg below)]
    exact ⟨by linarith, fun tie => by linarith⟩

/-- Where a magnitude is reached and not passed, those that are reached are those up to it. -/
theorem le_iff_reaches {u : ℚ} (reaches : Reaches m u)
    (stops : m < infinityBits → ¬ Reaches (m + 1) u) {k : Nat} (le : k ≤ infinityBits) :
    k ≤ m ↔ Reaches k u := by
  refine ⟨reaches.of_le, fun here => ?_⟩
  by_contra beyond
  exact stops (by omega) (here.of_le (Nat.lt_of_not_le beyond))

namespace RoundsTo

theorem magnitude_le (rounds : RoundsTo q x) : x.magnitude ≤ infinityBits :=
  isNaN_eq_false_iff.1 rounds.isNumber

theorem preferred (rounds : RoundsTo q x) (finite : x.magnitude < infinityBits) {k : Nat}
    (less : k < infinityBits) : Preferred (unitsOf q) x.magnitude k := by
  have isFinite := (isFinite_iff x).2 finite
  have other := isFinite_ofMagnitude less
  have near := rounds.nearest isFinite _ other
  have even := rounds.even isFinite _ other
  rw [value_of_nonneg rounds.noSign, value_ofMagnitude less.le] at near even
  rw [fractionField_mod_two] at even
  exact preferred_iff.2 ⟨near, fun different => even (mt units_div_inj.1 different)⟩

/-- What is rounded to a double reaches its magnitude, and none beyond. -/
theorem le_iff (rounds : RoundsTo q x) (le : m ≤ infinityBits) :
    m ≤ x.magnitude ↔ Reaches m (unitsOf q) := by
  have atInfinity : x.magnitude = infinityBits ↔ Reaches infinityBits (unitsOf q) := by
    rw [← eq_infinity_iff rounds.noSign, rounds.infinity_iff, reaches_infinityBits_iff]
  refine le_iff_reaches ?reaches ?stops le
  case reaches =>
    rcases rounds.magnitude_le.eq_or_lt with infinite | finite
    · rw [infinite]
      exact atInfinity.1 infinite
    · have preferred := fun k less => rounds.preferred finite (k := k) less
      cases here : x.magnitude with
      | zero => trivial
      | succ m =>
        rw [here] at preferred finite
        exact reaches_of_preferred (preferred m (by omega))
  case stops =>
    intro finite
    rcases (Nat.succ_le_of_lt finite).eq_or_lt with last | inside
    · rw [← Nat.succ_eq_add_one, last, ← atInfinity]
      exact finite.ne
    · exact not_reaches_of_preferred (rounds.preferred finite inside)

end RoundsTo

/-- A double is what a number is rounded to if the number reaches its magnitude, and none beyond. -/
theorem roundsTo_of_le_iff (nonneg : 0 ≤ q) (noSign : x.isNegative = false)
    (inRange : x.magnitude ≤ infinityBits)
    (reaches : ∀ m ≤ infinityBits, m ≤ x.magnitude ↔ Reaches m (unitsOf q)) : RoundsTo q x := by
  have preferred : x.IsFinite → ∀ k, Preferred (unitsOf q) x.magnitude k := by
    intro finite
    have less := (isFinite_iff x).1 finite
    refine preferred_of_reaches ((reaches _ inRange).1 le_rfl) fun beyond => ?_
    exact Nat.not_succ_le_self _ ((reaches _ less).2 beyond)
  refine ⟨nonneg, noSign, isNaN_eq_false_iff.2 inRange, ?infinity, ?nearest, ?even⟩
  case infinity =>
    rw [eq_infinity_iff noSign, ← reaches_infinityBits_iff, ← reaches _ le_rfl]
    exact ⟨fun same => same.ge, fun le => le_antisymm inRange le⟩
  case nearest =>
    intro finite y other
    obtain ⟨k, -, near, -⟩ := exists_units_le nonneg other
    rw [value_of_nonneg noSign]
    exact (preferred_iff.1 (preferred finite k)).1.trans near
  case even =>
    intro finite y other different tie
    obtain ⟨k, -, near, same⟩ := exists_units_le nonneg other
    obtain ⟨closer, even⟩ := preferred_iff.1 (preferred finite k)
    rw [value_of_nonneg noSign] at different tie
    have equal := le_antisymm (near.trans tie.le) closer
    rw [fractionField_mod_two]
    refine even ?_ equal
    rintro rfl
    exact different (same (tie.trans equal.symm))

/-! ## What follows -/

namespace RoundsTo

variable {p r : ℚ}

/-- A greater number is not rounded to a smaller double. -/
theorem magnitude_mono (one : RoundsTo p x) (other : RoundsTo q y) (le : p ≤ q) :
    x.magnitude ≤ y.magnitude :=
  (other.le_iff one.magnitude_le).2
    (((one.le_iff one.magnitude_le).1 le_rfl).mono (unitsOf_mono le))

/-- A number is rounded to one double. -/
theorem unique (one : RoundsTo q x) (other : RoundsTo q y) : x = y :=
  eq_of_magnitude_eq one.noSign other.noSign
    (le_antisymm (one.magnitude_mono other le_rfl) (other.magnitude_mono one le_rfl))

/-- What lies between two numbers that are rounded alike is rounded like them. -/
theorem between (low : RoundsTo p x) (high : RoundsTo q x) (above : p ≤ r) (below : r ≤ q) :
    RoundsTo r x := by
  refine roundsTo_of_le_iff (low.nonneg.trans above) low.noSign low.magnitude_le fun m le => ?_
  constructor
  · intro here
    exact ((low.le_iff le).1 here).mono (unitsOf_mono above)
  · intro reaches
    exact (high.le_iff le).2 (reaches.mono (unitsOf_mono below))

end RoundsTo

/-- A value is rounded to its own double. -/
theorem roundsTo_value (noSign : x.isNegative = false) (inRange : x.magnitude ≤ infinityBits) :
    RoundsTo x.value x := by
  have units' : unitsOf x.value = units x.magnitude := by
    rw [value_of_nonneg noSign, unitsOf, div_mul_cancel₀ _ (pow_ne_zero 1074 two_ne_zero)]
  have nonneg : 0 ≤ x.value := by
    rw [value_of_nonneg noSign]
    exact div_nonneg (Nat.cast_nonneg _) (pow_nonneg zero_le_two 1074)
  refine roundsTo_of_le_iff nonneg noSign inRange fun m _ => ?_
  rw [units']
  refine ⟨fun here => reaches_of_units_le (units_cast_le here), fun reaches => ?_⟩
  by_contra beyond
  have next := units_cast_lt (Nat.lt_succ_self x.magnitude)
  linarith [(reaches.of_le (Nat.lt_of_not_le beyond)).le]

theorem roundsTo_zero : RoundsTo 0 (ofMagnitude 0) := by
  have rounds := roundsTo_value (x := ofMagnitude 0) (by decide) (by decide)
  rw [value_ofMagnitude (Nat.zero_le _), units_zero_div] at rounds
  exact rounds

/-- The computation rounds. -/
theorem roundsTo_nearest {num den : Nat} (pos : 0 < den) :
    RoundsTo (num / den) (nearest num den) := by
  have inRange : nearestMagnitude num den ≤ infinityBits := min_le_right _ _
  have magnitude : (nearest num den).magnitude = nearestMagnitude num den :=
    magnitude_ofMagnitude inRange
  refine roundsTo_of_le_iff (div_nonneg (Nat.cast_nonneg _) (Nat.cast_nonneg _))
    (isNegative_ofMagnitude inRange) (magnitude ▸ inRange) fun m le => ?_
  rw [magnitude, le_nearestMagnitude_iff pos, and_iff_right le]

/-- Decimal fractions are rounded. -/
theorem roundsTo_nearest_power (num places : Nat) :
    RoundsTo (num / 10 ^ places) (nearest num (power 10 places)) := by
  have positive : 0 < 10 ^ places := Nat.pow_pos (by decide)
  have rounds : RoundsTo _ (nearest num (10 ^ places)) := roundsTo_nearest positive
  rw [Nat.cast_pow, Nat.cast_ofNat] at rounds
  exact rounds

end RoundsTo

end LoxScan.Binary64
