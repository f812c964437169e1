/-
# `LoxScan.Proofs.NumberEchoes` — what the text shown for a number says of it

A number token is echoed with its value, and the text shown for the value loses
nothing: the decimal that it denotes is rounded to the same double, and no decimal with
fewer digits is (`IsShortest`).  In the range that is written without a power of ten
(`WrittenOut`) the text is itself one number token with that value (`ScansAsNumber`),
and outside of it never (`number_echoes_faithful`).

The range is stated by values and computed by patterns; that the two agree is that
patterns are in the order of their values (`isPlain_iff`).
-/
import LoxScan.Proofs.NumberValues
import LoxScan.Proofs.WrittenNumbers

namespace LoxScan

/-! ## Scanning a number -/

/-- A text is one number token from its first character to its last. -/
def ScansAsNumber (text : String) (x : Binary64) : Prop :=
  scan text = [.token ⟨.number, text, some (.number x), 1, ⟨0, text.utf8ByteSize⟩⟩,
    .token ⟨.eof, "", none, 1, ⟨text.utf8ByteSize, text.utf8ByteSize⟩⟩]

section Scan

variable {text : List Char} {q : ℚ} {x : Binary64}

/-- What denotes a number that is rounded to a double is a token with this double for its value. -/
theorem scansAsNumber_of_denotes (denotes : Denotes text q) (rounds : Binary64.RoundsTo q x) :
    ScansAsNumber (String.ofList text) x := by
  have oneLine : Position.start.after text = ⟨byteLength text, 1⟩ := by
    rw [Position.start_after, List.count_eq_zero.2 (denotes.notMem rfl)]
  obtain ⟨whole, fraction, formed, rfl, rfl⟩ := denotes_iff.1 denotes
  have value := (Lexeme.roundsTo_decimalValue whole fraction).unique rounds
  rw [ScansAsNumber, scan_lexeme formed, Token.ofLexeme, Token.eof, Position.spanOf,
    Position.spanOf, Position.after_nil, oneLine, Lexeme.literal?, value, utf8ByteSize_ofList]
  rfl

/-- Where a letter follows, a word is next, and something behind it. -/
theorem itemsOf_letter {c : Char} (letter : isLetter c) (more : List Char) (p : Position) :
    ∃ letters items, itemsOf p (Piece.pieces (c :: more)) =
      .token (.ofLexeme p (.word letters)) :: items ∧ items ≠ [] := by
  have split : c :: more = (Piece.lexeme (.word (c :: more.takeWhile isWordChar))).text ++
      more.dropWhile isWordChar := by
    show c :: more = c :: (more.takeWhile isWordChar ++ more.dropWhile isWordChar)
    rw [List.takeWhile_append_dropWhile]
  have stands : (Piece.lexeme (.word (c :: more.takeWhile isWordChar))).StandsBefore
      (more.dropWhile isWordChar) :=
    .lexeme (.word letter fun _ mem => List.mem_takeWhile_imp mem) (stops_dropWhile _ _)
  rw [split, Piece.pieces_append stands]
  refine ⟨_, itemsOf _ (Piece.pieces (more.dropWhile isWordChar)), rfl, ?_⟩
  rw [itemsOf_eq_append]
  exact List.append_ne_nil_of_right_ne_nil _ (List.cons_ne_nil _ _)

/-- A number that a power of ten follows is one token, and the power of ten is others. -/
theorem not_scansAlone_of_scaled {power : List Char} (denotes : Denotes text q) {t : Token}
    {last : Item} (alone : scan (String.ofList (text ++ 'e' :: power)) = [.token t, last]) :
    False := by
  obtain ⟨whole, fraction, formed, rfl, rfl⟩ := denotes_iff.1 denotes
  have stops : (Lexeme.number whole fraction).StopsBefore ('e' :: power) := by
    refine ⟨stops_cons.2 rfl, ?_⟩
    rintro - ⟨d, tail, same, -⟩
    exact absurd (List.cons.inj same).1 (by decide)
  obtain ⟨letters, items, behind, more⟩ := itemsOf_letter (c := 'e') rfl power
    (Position.start.after (Lexeme.number whole fraction).text)
  rw [scan_lexeme_append formed stops, behind] at alone
  exact more (List.cons.inj (List.cons.inj alone).2).2

theorem kind_ne_number_of_letter {c : Char} (letter : isLetter c) {more : List Char} {t : Token}
    {items : List Item} (scanned : scan (String.ofList (c :: more)) = .token t :: items) :
    t.kind ≠ .number := by
  obtain ⟨letters, items, word, -⟩ := itemsOf_letter letter more .start
  rw [scan, String.toList_ofList, word] at scanned
  cases scanned
  exact Kind.ofWord_ne_number _

end Scan

namespace Binary64

/-! ## What a text says of a double -/

/-- A number is rounded to a double, and can be written with as few digits as any other number that
is. -/
def IsShortest (q : ℚ) (x : Binary64) : Prop :=
  RoundsTo q x ∧ ∀ p n, RoundsTo p x → HasDigits n p → HasDigits n q

/-- Zero, and the values from the double nearest to `1e-4` up to, and not including, `1e16`. -/
def WrittenOut (x : Binary64) : Prop :=
  x.IsFinite ∧
    (x.value = 0 ∨ (∃ least, RoundsTo (1 / 10 ^ 4) least ∧ least.value ≤ x.value) ∧
      x.value < 10 ^ 16)

/-- The text shown for a double denotes a shortest number for it, and it can be scanned again if it
is written out, and only then. -/
structure ShownFaithfully (x : Binary64) : Prop where
  denotes : x.IsFinite → ∃ q, Numeral x.shown.toList q ∧
    (∀ p, Numeral x.shown.toList p → p = q) ∧ IsShortest q x
  scans : x.WrittenOut → ScansAsNumber x.shown x
  others : ¬ x.WrittenOut → ∀ t last, scan x.shown = [.token t, last] → t.kind ≠ .number

/-! ## The range that is written out -/

section Range

variable {x y : Binary64} {m : Nat}

theorem value_le_iff (sign : x.isNegative = false) (sign' : y.isNegative = false) :
    x.value ≤ y.value ↔ x.magnitude ≤ y.magnitude := by
  rw [value_of_nonneg sign, value_of_nonneg sign',
    div_le_div_iff_of_pos_right (pow_pos two_pos 1074), Nat.cast_le, units_strictMono.le_iff_le]

theorem div_lt_cast_iff (a b n : Nat) : (a : ℚ) / 2 ^ n < b ↔ a < b * power 2 n := by
  rw [div_lt_iff₀ (pow_pos two_pos n), power_eq, ← Nat.cast_ofNat (R := ℚ) (n := 2), ← Nat.cast_pow,
    ← Nat.cast_mul, Nat.cast_lt]

/-- `1e16` is a double. -/
theorem units_nearest_greatest :
    units (nearestMagnitude (power 10 16) 1) = 10 ^ 16 * power 2 1074 := by
  decide +kernel

theorem value_lt_iff (sign : x.isNegative = false) :
    x.value < 10 ^ 16 ↔ x.magnitude < nearestMagnitude (power 10 16) 1 := by
  have bound := div_lt_cast_iff (units x.magnitude) (10 ^ 16) 1074
  rw [← units_nearest_greatest, units_strictMono.lt_iff_lt, Nat.cast_pow, Nat.cast_ofNat] at bound
  rw [value_of_nonneg sign]
  exact bound

theorem exists_least_iff (sign : x.isNegative = false) :
    (∃ least, RoundsTo (1 / 10 ^ 4) least ∧ least.value ≤ x.value) ↔
      nearestMagnitude 1 (power 10 4) ≤ x.magnitude := by
  have rounds := roundsTo_nearest_power 1 4
  rw [Nat.cast_one] at rounds
  have magnitude : (nearest 1 (power 10 4)).magnitude = nearestMagnitude 1 (power 10 4) :=
    magnitude_ofMagnitude (min_le_right _ _)
  rw [← magnitude, ← value_le_iff rounds.noSign sign]
  constructor
  · rintro ⟨least, rounds', le⟩
    rw [rounds.unique rounds']
    exact le
  · intro le
    exact ⟨_, rounds, le⟩

theorem value_eq_zero_iff (sign : x.isNegative = false) : x.value = 0 ↔ x.magnitude = 0 := by
  rw [value_of_nonneg sign, ← units_zero_div, units_div_inj]

/-- A finite double is written out if its pattern is in the range. -/
theorem isPlain_iff (sign : x.isNegative = false) (finite : x.IsFinite) :
    isPlain x.magnitude = true ↔ x.WrittenOut := by
  rw [WrittenOut, and_iff_right finite, exists_least_iff sign, value_lt_iff sign,
    value_eq_zero_iff sign, isPlain, Bool.or_eq_true, Bool.and_eq_true, beq_iff_eq,
    decide_eq_true_iff, decide_eq_true_iff]

end Range

/-! ## Shown texts -/

section Shown

variable {x : Binary64} {m : Nat}

theorem ofMagnitude_magnitude (sign : x.isNegative = false) (isNumber : x.isNaN = false) :
    ofMagnitude x.magnitude = x :=
  have le := isNaN_eq_false_iff.1 isNumber
  eq_of_magnitude_eq (isNegative_ofMagnitude le) sign (magnitude_ofMagnitude le)

theorem toList_shown (sign : x.isNegative = false) (isNumber : x.isNaN = false) :
    x.shown.toList = shownMagnitude x.magnitude := by
  rw [shown, sign, isNumber]
  exact String.toList_ofList

theorem isShortest_zero : IsShortest 0 (ofMagnitude 0) := by
  refine ⟨roundsTo_zero, fun p n _ _ => ⟨0, 0, Nat.pow_pos (by decide), ?_⟩⟩
  rw [Nat.cast_zero, zero_mul]

theorem denotes_shownMagnitude_zero : Denotes (shownMagnitude 0) 0 := by
  have denotes := Denotes.decimal isDigits_zero isDigits_zero
  have value : (digitsValue ['0'] : ℚ) + digitsValue ['0'] / 10 ^ ['0'].length = 0 := by
    have none : digitsValue ['0'] = 0 := rfl
    rw [none, Nat.cast_zero, zero_div, add_zero]
  rw [value] at denotes
  exact denotes

theorem shownMagnitude_of_finite (pos : 0 < m) (less : m < infinityBits) :
    shownMagnitude m = if isPlain m then plain (shortest m).significant (shortest m).point
      else scientific (shortest m).significant (shortest m).point := by
  rw [shownMagnitude, if_neg pos.ne', if_neg less.ne]

/-- The shortest decimal for a magnitude other than zero has a digit. -/
theorem isDigits_shortest (pos : 0 < m) (less : m < infinityBits) :
    IsDigits (shortest m).significant := by
  refine Decimal.isDigits_significant fun none => ?_
  have written : HasDigits 0 (shortest m).value := by
    refine ⟨0, (shortest m).places - 1074, Nat.one_pos, ?_⟩
    rw [Decimal.value, ofTenUnits_pow, none]
  exact (digits_pos_of_rounds pos less (roundsTo_shortest less) written).ne rfl

theorem isShortest_shortest (pos : 0 < m) (less : m < infinityBits) :
    IsShortest (shortest m).value (ofMagnitude m) :=
  ⟨roundsTo_shortest less, fun _ _ rounds written => hasDigits_shortest pos less rounds written⟩

theorem denotes_shownMagnitude (pos : 0 < m) (less : m < infinityBits)
    (isPlain' : isPlain m = true) : Denotes (shownMagnitude m) (shortest m).value := by
  rw [shownMagnitude_of_finite pos less, if_pos isPlain', Decimal.value_eq_significant]
  exact denotes_plain (isDigits_shortest pos less) _

theorem numeral_of_shownMagnitude (pos : 0 < m) (less : m < infinityBits)
    (notPlain : ¬ isPlain m = true) : Numeral (shownMagnitude m) (shortest m).value := by
  rw [shownMagnitude_of_finite pos less, if_neg notPlain, Decimal.value_eq_significant]
  exact numeral_of_scientific (isDigits_shortest pos less) _

/-- The text shown for a finite double denotes a shortest number for it, and is a number in code if
the double is written out. -/
theorem exists_isShortest (sign : x.isNegative = false) (finite : x.IsFinite) :
    ∃ q, Numeral x.shown.toList q ∧ IsShortest q x ∧ (x.WrittenOut → Denotes x.shown.toList q) := by
  have less := (isFinite_iff x).1 finite
  have isNumber := isNaN_eq_false_iff.2 less.le
  rw [toList_shown sign isNumber, ← isPlain_iff sign finite]
  have same := ofMagnitude_magnitude sign isNumber
  generalize x.magnitude = m at *
  subst same
  rcases Nat.eq_zero_or_pos m with rfl | pos
  · have denotes := denotes_shownMagnitude_zero
    exact ⟨0, denotes.numeral, isShortest_zero, fun _ => denotes⟩
  · have shortest' := isShortest_shortest pos less
    by_cases isPlain' : isPlain m = true
    · have denotes := denotes_shownMagnitude pos less isPlain'
      exact ⟨_, denotes.numeral, shortest', fun _ => denotes⟩
    · have numeral := numeral_of_shownMagnitude pos less isPlain'
      exact ⟨_, numeral, shortest', fun written => absurd written isPlain'⟩

/-- The text shown for infinity is a word, and that for a finite double that is not written out goes
on behind a number. -/
theorem kind_ne_number_of_not_writtenOut (sign : x.isNegative = false) (isNumber : x.isNaN = false)
    (outside : ¬ x.WrittenOut) {t : Token} {last : Item}
    (alone : scan x.shown = [.token t, last]) : t.kind ≠ .number := by
  rw [← String.ofList_toList (s := x.shown), toList_shown sign isNumber] at alone
  rcases (isNaN_eq_false_iff.1 isNumber).eq_or_lt with infinite | less
  · rw [infinite] at alone
    exact kind_ne_number_of_letter (c := 'i') rfl alone
  · have notPlain := mt (isPlain_iff sign ((isFinite_iff x).2 less)).1 outside
    generalize x.magnitude = m at *
    rcases Nat.eq_zero_or_pos m with rfl | pos
    · exact absurd rfl notPlain
    · obtain ⟨number, q, denotes, text, -⟩ :=
        exists_scientific (isDigits_shortest pos less) (shortest m).point
      rw [shownMagnitude_of_finite pos less, if_neg notPlain, text] at alone
      exact (not_scansAlone_of_scaled denotes alone).elim

theorem shownFaithfully (sign : x.isNegative = false) (isNumber : x.isNaN = false) :
    x.ShownFaithfully where
  denotes := by
    intro finite
    obtain ⟨q, numeral, shortest', -⟩ := exists_isShortest sign finite
    exact ⟨q, numeral, fun p other => other.unique numeral, shortest'⟩
  scans := by
    intro written
    obtain ⟨q, -, shortest', denotes⟩ := exists_isShortest sign written.1
    have scans := scansAsNumber_of_denotes (denotes written) shortest'.1
    rw [String.ofList_toList] at scans
    exact scans
  others := fun outside _ _ alone => kind_ne_number_of_not_writtenOut sign isNumber outside alone

end Shown

end Binary64

/-- A number token is echoed with its value, and the text shown for the value is faithful to it. -/
theorem number_echoes_faithful {source : String} {t : Token} (mem : t ∈ (tokenize source).1)
    (isNumber : t.kind = .number) :
    ∃ x, t.literal = some (.number x) ∧ t.display = "NUMBER " ++ t.lexeme ++ " " ++ x.shown ∧
      x.ShownFaithfully := by
  obtain ⟨q, x, -, value, rounds⟩ := (Token.scanned_of_mem mem).exists_rounded isNumber
  refine ⟨x, value, ?_, Binary64.shownFaithfully rounds.noSign rounds.isNumber⟩
  rw [Token.display, isNumber, value, ← String.append_assoc]
  rfl

/-- `1e23` lies halfway between two doubles, and the even one, which is less, is shown by it. -/
theorem number_echoes_faithful_halfway :
    (tokenize "100000000000000000000000").1.map Token.kind = [.number, .eof] ∧
      ∃ x : Binary64, x.bits = 0x44b52d02c7e14af6 ∧ x.shown = "1e23" ∧ x.ShownFaithfully := by
  have formed : (Lexeme.number "100000000000000000000000".toList []).WellFormed :=
    .whole ⟨by decide, List.all_eq_true.1 rfl⟩
  have text : String.ofList (Lexeme.number "100000000000000000000000".toList []).text =
      "100000000000000000000000" := by decide
  have tokens := tokens_lexeme formed
  rw [text] at tokens
  refine ⟨by rw [tokens]; rfl, ?_⟩
  obtain ⟨x, value, -, faithful⟩ := number_echoes_faithful (tokens ▸ List.mem_cons_self) rfl
  have bits : (Token.ofLexeme .start (.number "100000000000000000000000".toList [])).literal =
      some (.number ⟨0x44b52d02c7e14af6⟩) := by
    decide +kernel
  cases bits.symm.trans value
  exact ⟨_, rfl, by decide +kernel, faithful⟩

end LoxScan
