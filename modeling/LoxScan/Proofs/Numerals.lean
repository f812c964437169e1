/-
# `LoxScan.Proofs.Numerals` — the numbers that texts denote

Digits denote a natural number, digits with a point among them a decimal fraction, and
both may be followed by a power of ten.  The first two are how numbers are written in
code (`Denotes`), and all three how they are shown (`Numeral`).  The number denoted is
exact, and no double comes into it.

The link to lexemes is that a number in code is one quotient: its digits without the
point, over a power of ten for those behind it (`denotes_iff`).
-/
import Mathlib.Algebra.Order.Field.Rat
import Mathlib.Tactic.FieldSimp
import LoxScan.Proofs.Echo
import LoxScan.Proofs.Munch

namespace LoxScan

/-! ## Digits -/

/-- The number that digits denote. -/
def digitsValue (digits : List Char) : Nat :=
  Nat.ofDigitChars 10 digits 0

theorem digitsValue_append (digits more : List Char) :
    digitsValue (digits ++ more) = 10 ^ more.length * digitsValue digits + digitsValue more := by
  rw [digitsValue, Nat.ofDigitChars_append, Nat.ofDigitChars_eq_ofDigitChars_zero]
  rfl

/-! ## Numbers in code -/

/-- A text of digits, with a point among them or without, denotes a number. -/
inductive Denotes : List Char → ℚ → Prop
  | whole {digits : List Char} : IsDigits digits → Denotes digits (digitsValue digits)
  | decimal {whole fraction : List Char} : IsDigits whole → IsDigits fraction →
      Denotes (whole ++ '.' :: fraction)
        (digitsValue whole + digitsValue fraction / 10 ^ fraction.length)

/-- A number is its digits over a power of ten. -/
theorem digitsValue_div (whole fraction : List Char) :
    (digitsValue (whole ++ fraction) : ℚ) / 10 ^ fraction.length =
      digitsValue whole + digitsValue fraction / 10 ^ fraction.length := by
  have positive : (0 : ℚ) < 10 ^ fraction.length := pow_pos (by norm_num) _
  rw [digitsValue_append, Nat.cast_add, Nat.cast_mul, Nat.cast_pow, Nat.cast_ofNat, add_div,
    mul_div_cancel_left₀ _ positive.ne']

theorem denotes_decimal {whole fraction : List Char} (isDigits : IsDigits whole)
    (isFraction : IsDigits fraction) :
    Denotes (whole ++ '.' :: fraction)
      (digitsValue (whole ++ fraction) / 10 ^ fraction.length) := by
  rw [digitsValue_div]
  exact .decimal isDigits isFraction

theorem Lexeme.WellFormed.denotes {whole fraction : List Char}
    (formed : (Lexeme.number whole fraction).WellFormed) :
    Denotes (Lexeme.number whole fraction).text
      (digitsValue (whole ++ fraction) / 10 ^ fraction.length) := by
  cases formed with
  | whole isDigits =>
    rw [text, if_pos rfl, List.append_nil, List.length_nil, pow_zero, div_one]
    exact .whole isDigits
  | decimal isDigits isFraction =>
    rw [text, if_neg isFraction.1]
    exact denotes_decimal isDigits isFraction

/-- The texts that denote numbers are those of number lexemes. -/
theorem denotes_iff {text : List Char} {q : ℚ} :
    Denotes text q ↔ ∃ whole fraction, (Lexeme.number whole fraction).WellFormed ∧
      text = (Lexeme.number whole fraction).text ∧
      q = digitsValue (whole ++ fraction) / 10 ^ fraction.length := by
  constructor
  · intro denotes
    cases denotes with
    | whole isDigits =>
      refine ⟨text, [], .whole isDigits, (List.append_nil text).symm, ?_⟩
      rw [List.append_nil, List.length_nil, pow_zero, div_one]
    | @decimal whole fraction isDigits isFraction =>
      refine ⟨whole, fraction, .decimal isDigits isFraction, ?_, (digitsValue_div _ _).symm⟩
      rw [Lexeme.text, if_neg isFraction.1]
  · rintro ⟨whole, fraction, formed, rfl, rfl⟩
    exact formed.denotes

/-- Numbers in code are written with digits and points. -/
theorem Denotes.notMem {text : List Char} {q : ℚ} (denotes : Denotes text q) {c : Char}
    (other : (c.isDigit || c == '.') = false) : c ∉ text := by
  obtain ⟨noDigit, noPoint⟩ := Bool.or_eq_false_iff.1 other
  have outside : ∀ digits, IsDigits digits → c ∉ digits := by
    intro digits isDigits mem
    have isDigit := isDigits.2 c mem
    rw [noDigit] at isDigit
    cases isDigit
  cases denotes with
  | whole isDigits => exact outside _ isDigits
  | decimal isDigits isFraction =>
    intro mem
    rcases List.mem_append.1 mem with inWhole | behind
    · exact outside _ isDigits inWhole
    · rcases List.mem_cons.1 behind with point | inFraction
      · exact beq_eq_false_iff_ne.1 noPoint point
      · exact outside _ isFraction inFraction

/-- A text denotes one number. -/
theorem Denotes.unique {text : List Char} {q p : ℚ} (one : Denotes text q)
    (other : Denotes text p) : q = p := by
  obtain ⟨whole, fraction, formed, rfl, rfl⟩ := denotes_iff.1 one
  obtain ⟨whole', fraction', formed', same, rfl⟩ := denotes_iff.1 other
  cases formed.eq_of_text_eq formed' same
  rfl

/-! ## Numbers with a power of ten -/

/-- A power of ten as it is written behind a number, if it is not left out. -/
inductive PowerOfTen : List Char → ℤ → Prop
  | none : PowerOfTen [] 0
  | up {digits : List Char} : IsDigits digits → PowerOfTen ('e' :: digits) (digitsValue digits)
  | down {digits : List Char} : IsDigits digits →
      PowerOfTen ('e' :: '-' :: digits) (-digitsValue digits)

/-- A text denotes a number by digits and a power of ten. -/
inductive Numeral : List Char → ℚ → Prop
  | scaled {number power : List Char} {q : ℚ} {exponent : ℤ} : Denotes number q →
      PowerOfTen power exponent → Numeral (number ++ power) (q * 10 ^ exponent)

theorem Denotes.numeral {text : List Char} {q : ℚ} (denotes : Denotes text q) : Numeral text q := by
  have alone := Numeral.scaled denotes .none
  rw [List.append_nil, zpow_zero, mul_one] at alone
  exact alone

theorem isDigits_toDigits (n : Nat) : IsDigits (Nat.toDigits 10 n) :=
  ⟨Nat.toDigits_ne_nil, fun _ mem => Nat.isDigit_of_mem_toDigits (by decide) (by decide) mem⟩

theorem digitsValue_toDigits (n : Nat) : digitsValue (Nat.toDigits 10 n) = n :=
  Nat.ofDigitChars_ten_toDigits

theorem powerOfTen_toString (exponent : ℤ) :
    PowerOfTen ('e' :: (toString exponent).toList) exponent := by
  cases exponent with
  | ofNat n =>
    have up := PowerOfTen.up (isDigits_toDigits n)
    rw [digitsValue_toDigits] at up
    rw [Binary64.toList_toString_ofNat]
    exact up
  | negSucc n =>
    have down := PowerOfTen.down (isDigits_toDigits n.succ)
    rw [digitsValue_toDigits] at down
    rw [Binary64.toList_toString_negSucc]
    exact down

/-! ### One number only -/

theorem PowerOfTen.stops {power : List Char} {exponent : ℤ} (written : PowerOfTen power exponent) :
    Stops (· != 'e') power := by
  cases written with
  | none => exact stops_nil _
  | up => exact stops_cons.2 rfl
  | down => exact stops_cons.2 rfl

theorem not_isDigits_sign (digits : List Char) : ¬ IsDigits ('-' :: digits) := by
  intro isDigits
  exact absurd (isDigits.2 '-' List.mem_cons_self) (by decide)

theorem PowerOfTen.unique {power : List Char} {exponent exponent' : ℤ}
    (one : PowerOfTen power exponent) (other : PowerOfTen power exponent') :
    exponent = exponent' := by
  cases one with
  | none => cases other; rfl
  | up isDigits =>
    cases other with
    | up => rfl
    | down => exact absurd isDigits (not_isDigits_sign _)
  | down =>
    cases other with
    | up isDigits => exact absurd isDigits (not_isDigits_sign _)
    | down => rfl

/-- A text denotes one number, with a power of ten or without. -/
theorem Numeral.unique {text : List Char} {q p : ℚ} (one : Numeral text q)
    (other : Numeral text p) : q = p := by
  cases one with
  | @scaled number power _ _ denotes written =>
    generalize whole : number ++ power = text at other
    -- the letter before the power of ten is in no number, so both texts are parted there
    cases other with
    | @scaled number' power' _ _ denotes' written' =>
      have first := congrArg (List.takeWhile (· != 'e')) whole
      rw [takeWhile_append_of_stops (Piece.forall_bne_iff.2 (denotes.notMem rfl)) written.stops,
        takeWhile_append_of_stops (Piece.forall_bne_iff.2 (denotes'.notMem rfl)) written'.stops]
        at first
      subst first
      obtain rfl := List.append_cancel_left whole
      rw [denotes.unique denotes', written.unique written']

end LoxScan
