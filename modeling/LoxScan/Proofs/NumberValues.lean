/-
# `LoxScan.Proofs.NumberValues` — numbers in code have the nearest double as their value

The text of a number token denotes a number, whatever the count of its digits, and the
value of the token is what that number is rounded to (`number_tokens_rounded`).  So it
is infinity exactly from halfway above the greatest finite double on, it is always a
number and has no sign, and a token that denotes no less has no smaller pattern.
-/
import LoxScan.Proofs.Nearest
import LoxScan.Proofs.Numerals
import LoxScan.Proofs.Tokens

namespace LoxScan

/-- The value of a number lexeme is what its text denotes, rounded. -/
theorem Lexeme.roundsTo_decimalValue (whole fraction : List Char) :
    Binary64.RoundsTo (digitsValue (whole ++ fraction) / 10 ^ fraction.length)
      (decimalValue whole fraction) :=
  Binary64.roundsTo_nearest_power _ _

namespace Binary64

/-- Rounding keeps the order, and the order of doubles without a sign is that of their patterns. -/
theorem RoundsTo.bits_mono {p q : ℚ} {x y : Binary64} (one : RoundsTo p x) (other : RoundsTo q y)
    (le : p ≤ q) : x.bits ≤ y.bits := by
  rw [UInt64.le_iff_toNat_le, toNat_bits, toNat_bits, one.noSign, other.noSign]
  exact Nat.add_le_add_left (one.magnitude_mono other le) _

end Binary64

/-- A number token has a text that denotes a number, and the value that this number is rounded
to. -/
theorem Token.Scanned.exists_rounded {t : Token} (scanned : t.Scanned)
    (isNumber : t.kind = .number) :
    ∃ q x, Denotes t.lexeme.toList q ∧ t.literal = some (.number x) ∧ Binary64.RoundsTo q x := by
  obtain ⟨p, whole, fraction, formed, rfl⟩ := scanned.exists_number isNumber
  have text : (ofLexeme p (.number whole fraction)).lexeme.toList =
      (Lexeme.number whole fraction).text := String.toList_ofList
  rw [text]
  exact ⟨_, _, formed.denotes, rfl, Lexeme.roundsTo_decimalValue whole fraction⟩

/-- The text of a number token denotes exactly one number, and the value of the token is that number
rounded to the nearest double.  Of two number tokens, of one text or of two, the one that denotes no
less has no smaller pattern. -/
theorem number_tokens_rounded {source : String} {t : Token} (mem : t ∈ (tokenize source).1)
    (isNumber : t.kind = .number) :
    ∃ q x, Denotes t.lexeme.toList q ∧ (∀ p, Denotes t.lexeme.toList p → p = q) ∧
      t.literal = some (.number x) ∧ Binary64.RoundsTo q x ∧
      ∀ other, ∀ t' ∈ (tokenize other).1, t'.kind = .number →
        ∀ q' x', Denotes t'.lexeme.toList q' → t'.literal = some (.number x') → q ≤ q' →
          x.bits ≤ x'.bits := by
  obtain ⟨q, x, denotes, value, rounds⟩ :=
    (Token.scanned_of_mem mem).exists_rounded isNumber
  refine ⟨q, x, denotes, fun p same => same.unique denotes, value, rounds, ?_⟩
  intro other t' mem' isNumber' q' x' denotes' value' le
  obtain ⟨p, y, alike, valueAlike, rounds'⟩ :=
    (Token.scanned_of_mem mem').exists_rounded isNumber'
  obtain rfl := denotes'.unique alike
  rw [value'] at valueAlike
  cases valueAlike
  exact rounds.bits_mono rounds' le

/-- `2 ^ 53 + 1` lies halfway between two doubles, and the even one is `2 ^ 53`. -/
theorem number_tokens_rounded_halfway :
    (tokenize "9007199254740993").1.map Token.kind = [.number, .eof] ∧
      ∃ q, Denotes "9007199254740993".toList q ∧
        Binary64.RoundsTo q ⟨0x4340000000000000⟩ := by
  have formed : (Lexeme.number "9007199254740993".toList []).WellFormed :=
    .whole ⟨by decide, List.all_eq_true.1 rfl⟩
  have text : String.ofList (Lexeme.number "9007199254740993".toList []).text =
      "9007199254740993" := by decide
  have tokens := tokens_lexeme formed
  rw [text] at tokens
  refine ⟨by rw [tokens]; rfl, ?_⟩
  obtain ⟨q, x, denotes, -, value, rounds, -⟩ :=
    number_tokens_rounded (tokens ▸ List.mem_cons_self) rfl
  have bits : (Token.ofLexeme .start (.number "9007199254740993".toList [])).literal =
      some (.number ⟨0x4340000000000000⟩) := by
    decide +kernel
  cases bits.symm.trans value
  exact ⟨q, denotes, rounds⟩

end LoxScan
