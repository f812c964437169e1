/-
# `LoxScan.Proofs.WrittenNumbers` — the text of a number denotes its shortest decimal

A decimal is written with its digits from the first to the last that is not zero, and
where the point stands makes up for the zeros that are left out
(`Decimal.value_eq_significant`).  With the point in its place, and zeros between the
two where they are apart, these digits are a number as in code (`denotes_plain`); with
the point behind the first of them and a power of ten, they are one that code cannot
have (`numeral_scientific`).  Both denote the same number, digits and point given.
-/
import LoxScan.Binary64.Shown
import LoxScan.Proofs.Numerals
import LoxScan.Proofs.ShortestDecimal

namespace LoxScan

/-! ## Zeros -/

theorem digitsValue_zeros_append (n : Nat) (digits : List Char) :
    digitsValue (List.replicate n '0' ++ digits) = digitsValue digits := by
  rw [digitsValue, Nat.ofDigitChars_append, Nat.ofDigitChars_replicate_zero, Nat.mul_zero]
  rfl

theorem digitsValue_append_zeros (digits : List Char) (n : Nat) :
    digitsValue (digits ++ List.replicate n '0') = digitsValue digits * 10 ^ n := by
  rw [digitsValue, Nat.ofDigitChars_append, Nat.ofDigitChars_replicate_zero, Nat.mul_comm]
  rfl

theorem isDigit_of_mem_zeros (n : Nat) : ∀ c ∈ List.replicate n '0', c.isDigit := by
  intro c mem
  obtain rfl := (List.mem_replicate.1 mem).2
  rfl

theorem IsDigits.zeros_append {digits : List Char} (isDigits : IsDigits digits) (n : Nat) :
    IsDigits (List.replicate n '0' ++ digits) := by
  refine ⟨?_, List.forall_mem_append.2 ⟨isDigit_of_mem_zeros n, isDigits.2⟩⟩
  intro none
  exact isDigits.1 (List.append_eq_nil_iff.1 none).2

theorem isDigits_zero : IsDigits ['0'] :=
  ⟨List.cons_ne_nil _ _, isDigit_of_mem_zeros 1⟩

theorem Lexeme.wellFormed_number {whole fraction : List Char} (isDigits : IsDigits whole)
    (all : ∀ c ∈ fraction, c.isDigit) : (Lexeme.number whole fraction).WellFormed := by
  by_cases none : fraction = []
  · rw [none]
    exact .whole isDigits
  · exact .decimal isDigits ⟨none, all⟩

namespace Binary64

/-! ## Digits and a point -/

section Point

variable {digits : List Char}

/-- Digits with the point written out in full are a number in code. -/
theorem denotes_plain (isDigits : IsDigits digits) (point : ℤ) :
    Denotes (plain digits point) (digitsValue digits * 10 ^ (point - digits.length)) := by
  unfold plain
  split
  · next before =>
    -- all digits behind the point, with zeros before them
    have denotes := denotes_decimal isDigits_zero (isDigits.zeros_append point.natAbs)
    have value : digitsValue (['0'] ++ (List.replicate point.natAbs '0' ++ digits)) =
        digitsValue digits := digitsValue_zeros_append (point.natAbs + 1) digits
    have places : -((List.replicate point.natAbs '0' ++ digits).length : ℤ) =
        point - digits.length := by
      rw [List.length_append, List.length_replicate]
      omega
    rw [value, ← mul_zpow_neg, places] at denotes
    exact denotes
  · split
    · next behind =>
      -- all digits before the point, with zeros up to it
      have denotes := denotes_decimal
        (isDigits.append (isDigit_of_mem_zeros (point.natAbs - digits.length))) isDigits_zero
      have value : digitsValue
            (digits ++ List.replicate (point.natAbs - digits.length) '0' ++ ['0']) =
          digitsValue digits * 10 ^ (point.natAbs - digits.length) * 10 := by
        rw [← digitsValue_append_zeros]
        exact digitsValue_append_zeros _ 1
      have places : (point - digits.length : ℤ) = (point.natAbs - digits.length : Nat) := by omega
      rw [value, List.length_singleton, pow_one, Nat.cast_mul, Nat.cast_ofNat,
        mul_div_cancel_right₀ _ (by norm_num), Nat.cast_mul, Nat.cast_pow, Nat.cast_ofNat,
        ← zpow_natCast, ← places] at denotes
      rw [List.append_assoc] at denotes ⊢
      exact denotes
    · next inside =>
      have before : IsDigits (digits.take point.natAbs) := by
        refine ⟨?_, fun c mem => isDigits.2 c (List.mem_of_mem_take mem)⟩
        rw [Ne, List.take_eq_nil_iff]
        rintro (none | none)
        · omega
        · exact isDigits.1 none
      have behind : IsDigits (digits.drop point.natAbs) := by
        refine ⟨?_, fun c mem => isDigits.2 c (List.mem_of_mem_drop mem)⟩
        rw [Ne, List.drop_eq_nil_iff]
        exact inside
      have denotes := denotes_decimal before behind
      have places : -((digits.drop point.natAbs).length : ℤ) = point - digits.length := by
        rw [List.length_drop]
        omega
      rw [List.take_append_drop, ← mul_zpow_neg, places] at denotes
      exact denotes

/-- Digits with the point behind the first of them are a number in code, up to the letter before the
power of ten. -/
theorem exists_scientific (isDigits : IsDigits digits) (point : ℤ) :
    ∃ number q, Denotes number q ∧
      scientific digits point = number ++ 'e' :: (toString (point - 1)).toList ∧
      q * 10 ^ (point - 1) = digitsValue digits * 10 ^ (point - digits.length) := by
  obtain ⟨first, fraction, rfl⟩ := List.exists_cons_of_ne_nil isDigits.1
  obtain ⟨isDigit, all⟩ := List.forall_mem_cons.1 isDigits.2
  have formed : (Lexeme.number [first] fraction).WellFormed :=
    Lexeme.wellFormed_number ⟨List.cons_ne_nil _ _, by simpa using isDigit⟩ all
  have places : -(fraction.length : ℤ) + (point - 1) = point - (first :: fraction).length := by
    rw [List.length_cons]
    omega
  refine ⟨_, _, formed.denotes, rfl, ?_⟩
  rw [← mul_zpow_neg, mul_assoc, ← zpow_add₀ (by norm_num), places]
  rfl

theorem numeral_of_scientific (isDigits : IsDigits digits) (point : ℤ) :
    Numeral (scientific digits point) (digitsValue digits * 10 ^ (point - digits.length)) := by
  obtain ⟨number, q, denotes, text, value⟩ := exists_scientific isDigits point
  rw [text, ← value]
  exact .scaled denotes (powerOfTen_toString (point - 1))

end Point

/-! ## The digits of a decimal -/

namespace Decimal

variable {d : Decimal}

/-- The digits that are left out are zeros. -/
theorem exists_zeros (d : Decimal) :
    ∃ zeros, Nat.toDigits 10 d.digits = d.significant ++ List.replicate zeros '0' := by
  have split := List.takeWhile_append_dropWhile (p := (· == '0'))
    (l := (Nat.toDigits 10 d.digits).reverse)
  have zeros : ∀ c ∈ (Nat.toDigits 10 d.digits).reverse.takeWhile (· == '0'), c = '0' := by
    intro c mem
    exact beq_iff_eq.1 (List.mem_takeWhile_imp (p := (· == '0')) mem)
  refine ⟨((Nat.toDigits 10 d.digits).reverse.takeWhile (· == '0')).length, ?_⟩
  calc Nat.toDigits 10 d.digits
      = ((Nat.toDigits 10 d.digits).reverse.takeWhile (· == '0') ++
          (Nat.toDigits 10 d.digits).reverse.dropWhile (· == '0')).reverse := by
        rw [split, List.reverse_reverse]
    _ = d.significant ++ ((Nat.toDigits 10 d.digits).reverse.takeWhile (· == '0')).reverse :=
        List.reverse_append
    _ = _ := by
        rw [List.eq_replicate_of_mem zeros, List.reverse_replicate, List.length_replicate]

theorem isDigits_significant (nonzero : d.digits ≠ 0) : IsDigits d.significant := by
  obtain ⟨zeros, digits⟩ := d.exists_zeros
  constructor
  · intro none
    have value := digitsValue_toDigits d.digits
    rw [digits, none, digitsValue_append_zeros] at value
    exact nonzero (value.symm.trans (Nat.zero_mul _))
  · intro c mem
    refine (isDigits_toDigits d.digits).2 c ?_
    rw [digits]
    exact List.mem_append_left _ mem

/-- A decimal is its digits without the last zeros, at the place where the point stands. -/
theorem value_eq_significant (d : Decimal) :
    d.value = digitsValue d.significant * 10 ^ (d.point - d.significant.length) := by
  obtain ⟨zeros, digits⟩ := d.exists_zeros
  have value := digitsValue_toDigits d.digits
  have length := congrArg List.length digits
  rw [List.length_append, List.length_replicate] at length
  rw [digits, digitsValue_append_zeros] at value
  have places : d.point - d.significant.length = zeros + (d.places - 1074 : ℤ) := by
    rw [point, length]
    omega
  rw [Decimal.value, ofTenUnits_pow, places, zpow_add₀ (by norm_num), zpow_natCast, ← mul_assoc,
    ← value, Nat.cast_mul, Nat.cast_pow, Nat.cast_ofNat]

end Decimal

end Binary64

end LoxScan
