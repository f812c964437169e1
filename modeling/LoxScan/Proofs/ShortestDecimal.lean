/-
# `LoxScan.Proofs.ShortestDecimal` — no shorter decimal reads back

`HasDigits n q` says that `q` can be written with `n` significant digits.  The decimal
that the search gives is rounded to the double that it was searched for, and any other
number that is rounded to that double needs as many digits at least
(`hasDigits_shortest`).

Two facts carry the proof.  The numbers that are rounded to one double have no gaps
(`Reads.between`), so if a grid holds one of them then it holds one next to the value,
which is where the search looks (`exists_onGrid?`).  And the search goes from coarse
grids to fine ones, so it stops at the coarsest that holds one at all (`found_search`).
A number of `n` digits is on a grid that coarse, or else it is so small that the power
of ten at the front of the value lies between the two and will do in its place
(`exists_reads_of_hasDigits`).
-/
import Mathlib.Algebra.Order.Field.Power
import LoxScan.Binary64.Shortest
import LoxScan.Proofs.Nearest

namespace LoxScan.Binary64

/-! ## Decimals -/

/-- A number that can be written with so many significant digits. -/
def HasDigits (n : Nat) (q : ℚ) : Prop :=
  ∃ (digits : Nat) (exponent : ℤ), digits < 10 ^ n ∧ q = digits * 10 ^ exponent

/-- The value of a number of units of `10 ^ -1074`. -/
def ofTenUnits (u : Nat) : ℚ :=
  u * 10 ^ (-1074 : ℤ)

/-- The number that a decimal is. -/
def Decimal.value (d : Decimal) : ℚ :=
  ofTenUnits (d.digits * 10 ^ d.places)

theorem ofTenUnits_mono {u v : Nat} (le : u ≤ v) : ofTenUnits u ≤ ofTenUnits v :=
  mul_le_mul_of_nonneg_right (Nat.cast_le.2 le) (zpow_nonneg (by norm_num) _)

theorem mul_zpow_neg (a : ℚ) (n : Nat) : a * 10 ^ (-n : ℤ) = a / 10 ^ n := by
  rw [zpow_neg, zpow_natCast, div_eq_mul_inv]

theorem ofTenUnits_eq_div (u : Nat) : ofTenUnits u = u / 10 ^ 1074 :=
  mul_zpow_neg u 1074

theorem ofTenUnits_pow (digits places : Nat) :
    ofTenUnits (digits * 10 ^ places) = digits * 10 ^ (places - 1074 : ℤ) := by
  rw [ofTenUnits, sub_eq_add_neg, zpow_add₀ (by norm_num), zpow_natCast, Nat.cast_mul, Nat.cast_pow,
    Nat.cast_ofNat, mul_assoc]

theorem mul_five_div (a n : Nat) : ((a * power 5 n : Nat) : ℚ) / 10 ^ n = a / 2 ^ n := by
  have ten : (10 : ℚ) ^ n = 2 ^ n * 5 ^ n := by
    rw [← mul_pow]
    norm_num
  rw [power_eq, Nat.cast_mul, Nat.cast_pow, Nat.cast_ofNat, ten,
    mul_div_mul_right _ _ (pow_ne_zero n (by norm_num))]

/-- A finite value is a whole number of units. -/
theorem ofTenUnits_tenUnits {m : Nat} (le : m ≤ infinityBits) :
    ofTenUnits (tenUnits m) = (ofMagnitude m).value := by
  rw [ofTenUnits_eq_div, value_ofMagnitude le, tenUnits]
  exact mul_five_div (units m) 1074

/-! ## Reading back -/

/-- So many units are rounded to a magnitude. -/
def Reads (m u : Nat) : Prop :=
  RoundsTo (ofTenUnits u) (ofMagnitude m)

section Reads

variable {m u v w : Nat} {d : Decimal}

/-- Numbers that are rounded alike have no gaps. -/
theorem Reads.between (low : Reads m u) (high : Reads m v) (above : u ≤ w) (below : w ≤ v) :
    Reads m w :=
  RoundsTo.between low high (ofTenUnits_mono above) (ofTenUnits_mono below)

theorem reads_tenUnits (le : m ≤ infinityBits) : Reads m (tenUnits m) := by
  rw [Reads, ofTenUnits_tenUnits le]
  exact roundsTo_value (isNegative_ofMagnitude le) ((magnitude_ofMagnitude le).le.trans le)

/-- The test of a decimal is whether it is rounded to the magnitude. -/
theorem readsBack_iff (le : m ≤ infinityBits) :
    readsBack m d = true ↔ Reads m (d.digits * 10 ^ d.places) := by
  have rounds := roundsTo_nearest_power (d.digits * 10 ^ d.places) 1074
  rw [← ofTenUnits_eq_div] at rounds
  rw [readsBack, beq_iff_eq, power_eq 10 d.places, Reads]
  generalize d.digits * 10 ^ d.places = u at *
  constructor
  · intro same
    rw [← same]
    exact rounds
  · intro reads
    have magnitude := congrArg Binary64.magnitude (rounds.unique reads)
    rw [magnitude_ofMagnitude le] at magnitude
    rw [← magnitude]
    exact (magnitude_ofMagnitude (min_le_right _ _)).symm

end Reads

/-! ## The search -/

section Search

variable {m value places most : Nat} {d : Decimal}

section Neighbour

variable {passes : Decimal → Bool}

/-- The neighbour that is taken passes the test and is next to the value. -/
theorem passes_of_neighbour? (hit : neighbour? passes value places = some d) :
    passes d = true ∧ d.places = places ∧ d.digits ≤ value / 10 ^ places + 1 := by
  rw [← power_eq]
  dsimp only [neighbour?] at hit
  split at hit
  · next below above =>
    cases hit
    split
    · exact ⟨below, rfl, Nat.le_succ _⟩
    · exact ⟨above, rfl, le_rfl⟩
  · next below _ =>
    cases hit
    exact ⟨below, rfl, Nat.le_succ _⟩
  · next _ above =>
    cases hit
    exact ⟨above, rfl, le_rfl⟩
  · cases hit

theorem exists_neighbour? (either : passes ⟨value / 10 ^ places, places⟩ = true ∨
    passes ⟨value / 10 ^ places + 1, places⟩ = true) :
    ∃ d, neighbour? passes value places = some d := by
  rw [← power_eq] at either
  dsimp only [neighbour?]
  split
  · exact ⟨_, rfl⟩
  · exact ⟨_, rfl⟩
  · exact ⟨_, rfl⟩
  · next below above =>
    rw [below, above] at either
    exact absurd either (by decide)

end Neighbour

/-- A grid that holds a number that reads back is hit: one of the neighbours of the value lies
between the two. -/
theorem exists_onGrid? (le : m ≤ infinityBits) (exact : Reads m value) {digits : Nat}
    (reads : Reads m (digits * 10 ^ places)) : ∃ d, onGrid? m value places = some d := by
  unfold onGrid?
  refine exists_neighbour? ?_
  rw [readsBack_iff le, readsBack_iff le]
  have below : value / 10 ^ places * 10 ^ places ≤ value := Nat.div_mul_le_self _ _
  have above : value ≤ (value / 10 ^ places + 1) * 10 ^ places := by
    rw [Nat.mul_comm]
    exact (Nat.lt_mul_div_succ value (Nat.pow_pos (by decide))).le
  by_cases side : digits ≤ value / 10 ^ places
  · exact Or.inl (reads.between exact (Nat.mul_le_mul_right _ side) below)
  · exact Or.inr (exact.between reads above (Nat.mul_le_mul_right _ (Nat.lt_of_not_le side)))

/-- A decimal that a search over the grids up to `most` places ends with: it reads back, is next to
the value, and no coarser grid holds a number that reads back. -/
structure Found (m value most : Nat) (d : Decimal) : Prop where
  reads : Reads m (d.digits * 10 ^ d.places)
  near : d.digits ≤ value / 10 ^ d.places + 1
  coarsest : ∀ digits, ∀ places ≤ most, Reads m (digits * 10 ^ places) → places ≤ d.places

theorem found_search (le : m ≤ infinityBits) (exact : Reads m value) (most : Nat) :
    Found m value most (search m value most) := by
  induction most with
  | zero =>
    refine ⟨?_, ?_, fun _ _ within _ => within⟩
    · rw [search, Nat.pow_zero, Nat.mul_one]
      exact exact
    · rw [search, Nat.pow_zero, Nat.div_one]
      exact Nat.le_succ value
  | succ most ih =>
    rw [search]
    cases hit : onGrid? m value (most + 1) with
    | none =>
      refine ⟨ih.reads, ih.near, fun digits places within reads => ?_⟩
      rcases Nat.eq_or_lt_of_le within with rfl | finer
      · obtain ⟨d, found⟩ := exists_onGrid? le exact reads
        rw [hit] at found
        cases found
      · exact ih.coarsest digits places (Nat.le_of_lt_succ finer) reads
    | some d =>
      obtain ⟨reads, places, near⟩ := passes_of_neighbour? hit
      rw [← places] at near ⊢
      exact ⟨(readsBack_iff le).1 reads, near, fun _ _ within _ => within⟩

end Search

/-! ## The fewest digits -/

/-- The digits of a number are as many as the power of ten above it says. -/
theorem lt_pow_length_toDigits (n : Nat) : n < 10 ^ (Nat.toDigits 10 n).length :=
  (Nat.length_toDigits_le_iff (by decide) Nat.length_toDigits_pos).1 le_rfl

theorem pow_length_toDigits_le {n : Nat} (pos : 0 < n) :
    10 ^ ((Nat.toDigits 10 n).length - 1) ≤ n := by
  by_cases short : (Nat.toDigits 10 n).length = 1
  · rw [short]
    exact pos
  · have more : 0 < (Nat.toDigits 10 n).length := Nat.length_toDigits_pos
    refine Nat.le_of_not_lt fun less => ?_
    have := (Nat.length_toDigits_le_iff (by decide) (by omega)).2 less
    omega

section Digits

variable {m value most n places : Nat} {d : Decimal} {q : ℚ}

/-- Next to a value on a grid are no more digits than the value has above the grid; if there is one
more, the number is a power of ten. -/
theorem Found.hasDigits (found : Found m value most d) (one : 0 < n)
    (small : value < 10 ^ (n + d.places)) : HasDigits n d.value := by
  have kept : value / 10 ^ d.places < 10 ^ n := by
    rw [Nat.div_lt_iff_lt_mul (Nat.pow_pos (by decide)), ← Nat.pow_add]
    exact small
  rw [Decimal.value, ofTenUnits_pow]
  rcases Nat.eq_or_lt_of_le (found.near.trans kept) with full | less
  · refine ⟨1, n + (d.places - 1074), Nat.one_lt_pow one.ne' (by decide), ?_⟩
    rw [full, zpow_add₀ (by norm_num), zpow_natCast, Nat.cast_one, one_mul, Nat.cast_pow,
      Nat.cast_ofNat]
  · exact ⟨d.digits, d.places - 1074, less, rfl⟩

/-- Where a number of so many digits reads back, so does one on the grid of as many digits below the
first of the value: the number itself, or, if it is smaller than that grid allows, the power of ten
between it and the value. -/
theorem exists_reads_of_hasDigits (exact : Reads m value) (rounds : RoundsTo q (ofMagnitude m))
    (written : HasDigits (n + 1) q) (large : 10 ^ (n + places) ≤ value) :
    ∃ digits, Reads m (digits * 10 ^ places) := by
  obtain ⟨digits, exponent, less, rfl⟩ := written
  by_cases coarse : (places - 1074 : ℤ) ≤ exponent
  · -- the number lies on the grid
    obtain ⟨more, rfl⟩ := Int.exists_add_of_le coarse
    have same : ofTenUnits (digits * 10 ^ more * 10 ^ places) =
        digits * 10 ^ (places - 1074 + more : ℤ) := by
      rw [ofTenUnits_pow, add_comm, zpow_add₀ (by norm_num), zpow_natCast, ← mul_assoc,
        Nat.cast_mul, Nat.cast_pow, Nat.cast_ofNat]
    refine ⟨digits * 10 ^ more, ?_⟩
    rw [Reads, same]
    exact rounds
  · -- its digits end below the grid, so it is no greater than the power of ten
    have bound : (digits : ℚ) ≤ 10 ^ ((n + 1 : Nat) : ℤ) := by
      rw [zpow_natCast]
      exact_mod_cast less.le
    refine ⟨10 ^ n, RoundsTo.between rounds exact ?_ (ofTenUnits_mono ?_)⟩
    · calc (digits : ℚ) * 10 ^ exponent
          ≤ 10 ^ ((n + 1 : Nat) : ℤ) * 10 ^ exponent :=
            mul_le_mul_of_nonneg_right bound (zpow_nonneg (by norm_num) _)
        _ = 10 ^ ((n + 1 : Nat) + exponent) := (zpow_add₀ (by norm_num) _ _).symm
        _ ≤ 10 ^ (n + (places - 1074) : ℤ) := zpow_le_zpow_right₀ (by norm_num) (by omega)
        _ = ofTenUnits (10 ^ n * 10 ^ places) := by
            rw [ofTenUnits_pow, zpow_add₀ (by norm_num), zpow_natCast, Nat.cast_pow,
              Nat.cast_ofNat]
    · rw [← Nat.pow_add]
      exact large

theorem found_shortest (less : m < infinityBits) :
    Found m (tenUnits m) ((Nat.toDigits 10 (tenUnits m)).length - 1) (shortest m) :=
  found_search less.le (reads_tenUnits less.le) _

theorem power_pos {base : Nat} (pos : 0 < base) (exponent : Nat) : 0 < power base exponent :=
  Nat.pow_pos pos

theorem tenUnits_pos (pos : 0 < m) : 0 < tenUnits m :=
  Nat.mul_pos (pos.trans_le units_strictMono.le_apply) (power_pos (by decide) 1074)

/-- What is rounded to a magnitude other than zero has a digit. -/
theorem digits_pos_of_rounds (pos : 0 < m) (less : m < infinityBits)
    (rounds : RoundsTo q (ofMagnitude m)) (written : HasDigits n q) : 0 < n := by
  refine Nat.pos_of_ne_zero ?_
  rintro rfl
  obtain ⟨digits, exponent, none, rfl⟩ := written
  obtain rfl : digits = 0 := by omega
  rw [Nat.cast_zero, zero_mul] at rounds
  have same := congrArg Binary64.magnitude (rounds.unique roundsTo_zero)
  rw [magnitude_ofMagnitude less.le, magnitude_ofMagnitude (Nat.zero_le _)] at same
  exact pos.ne' same

/-- The shortest decimal is rounded to the double that it was searched for. -/
theorem roundsTo_shortest (less : m < infinityBits) :
    RoundsTo (shortest m).value (ofMagnitude m) :=
  (found_shortest less).reads

/-- It can be written with as many digits as any other number that is rounded to that double. -/
theorem hasDigits_shortest (pos : 0 < m) (less : m < infinityBits)
    (rounds : RoundsTo q (ofMagnitude m)) (written : HasDigits n q) :
    HasDigits n (shortest m).value := by
  have found := found_shortest less
  have small := lt_pow_length_toDigits (tenUnits m)
  have large := pow_length_toDigits_le (tenUnits_pos pos)
  have one := digits_pos_of_rounds pos less rounds written
  generalize (Nat.toDigits 10 (tenUnits m)).length = length at *
  -- as many places as the value has beyond `n` digits, at least
  have coarse : length - n ≤ (shortest m).places := by
    by_cases all : length ≤ n
    · omega
    · obtain ⟨n, rfl⟩ := Nat.exists_eq_add_one_of_ne_zero one.ne'
      have split : n + (length - (n + 1)) = length - 1 := by omega
      rw [← split] at large
      obtain ⟨digits, reads⟩ :=
        exists_reads_of_hasDigits (reads_tenUnits less.le) rounds written large
      exact found.coarsest digits _ (by omega) reads
  exact found.hasDigits one (small.trans_le (Nat.pow_le_pow_right (by decide) (by omega)))

end Digits

end LoxScan.Binary64
