/-
# `LoxScan.Proofs.Grammar` — which texts are tokens and which are passed over

The lexical grammar as relations, stated without the scan: nothing here takes a
text apart, looks ahead, or prefers one reading to another.

| | |
| :-- | :-- |
| `Spells text kind value` | the text is one token, of this kind and with this value |
| `Trivia text rest` | the text, before `rest`, is one piece of white space or one comment |
| `Foreign c` | the character is in no text of the language outside strings and comments |

`Trivia` has to know what follows in one case only, that of a comment that is
never closed.  The grammar is ambiguous on purpose: `1` and `12` are both
tokens, and `/` is one where `//` begins a comment.  Which reading a scan takes
is the subject of `LoxScan.Proofs.Munch`.

The last section ties the classes of characters that a scan goes by
(`CharClass.of`) to the classes of the grammar, one equivalence for each.
-/
import LoxScan.Lexeme
import LoxScan.Alphabet

namespace LoxScan

/-! ## Characters -/

/-- White space. -/
def isBlank (c : Char) : Bool :=
  c == ' ' || c == '\r' || c == '\t' || c == '\n'

/-- The characters that code is written with: letters, digits, the underscore, white space, and
those of the marks.  The quote, which takes a text out of code, is none of them. -/
def isCodeChar (c : Char) : Bool :=
  isWordChar c || isBlank c ||
    ['(', ')', '{', '}', ',', '.', '-', '+', ';', '*', '/', '!', '=', '<', '>'].contains c

/-- A character that neither belongs to code nor opens a string. -/
def Foreign (c : Char) : Prop :=
  isCodeChar c = false ∧ c ≠ '"'

instance (c : Char) : Decidable (Foreign c) :=
  inferInstanceAs (Decidable (_ ∧ _))

/-! ## Tokens -/

/-- At least one digit, and nothing else. -/
def IsDigits (text : List Char) : Prop :=
  text ≠ [] ∧ ∀ c ∈ text, c.isDigit

/-- A text is one token, of a kind and with a value.  A word that is spelled like a reserved one is
that one, and every other word is an identifier. -/
inductive Spells : List Char → Kind → Option Literal → Prop
  | mark (mark : Mark) : Spells mark.spelling.toList (.mark mark) none
  | string {body : List Char} : '"' ∉ body →
      Spells ('"' :: (body ++ ['"'])) .string (some (.text (.ofList body)))
  | whole {digits : List Char} : IsDigits digits →
      Spells digits .number (some (.number (Lexeme.decimalValue digits [])))
  | decimal {whole fraction : List Char} : IsDigits whole → IsDigits fraction →
      Spells (whole ++ '.' :: fraction) .number
        (some (.number (Lexeme.decimalValue whole fraction)))
  | reserved (word : Reserved) : Spells word.spelling.toList (.reserved word) none
  | identifier {c : Char} {rest : List Char} : isLetter c → (∀ d ∈ rest, isWordChar d) →
      (∀ word : Reserved, word.spelling.toList ≠ c :: rest) → Spells (c :: rest) .identifier none

/-! ## White space and comments -/

/-- A text does not hold what closes a comment. -/
def NoClosing (body : List Char) : Prop :=
  ¬ ['*', '/'] <:+: body

/-- A text is a piece of white space or a comment.  Only a comment that is not closed needs to know
what follows: nothing may. -/
inductive Trivia : List Char → List Char → Prop
  | blank {c : Char} {rest : List Char} : isBlank c → Trivia [c] rest
  | line {body rest : List Char} : '\n' ∉ body → Trivia ('/' :: '/' :: body) rest
  | block {body rest : List Char} : NoClosing body →
      Trivia ('/' :: '*' :: (body ++ ['*', '/'])) rest
  | unclosed {body : List Char} : NoClosing body → Trivia ('/' :: '*' :: body) []

/-- A text, before `rest`, has some reading in the grammar. -/
def Matches (text rest : List Char) : Prop :=
  (∃ kind value, Spells text kind value) ∨ Trivia text rest

/-! ## What a comment holds -/

theorem noClosing_nil : NoClosing [] := by
  intro h
  simpa using h.length_le

/-- A closing is at the head of a text or in its tail. -/
theorem noClosing_cons {c : Char} {rest : List Char} :
    NoClosing (c :: rest) ↔ ¬ (c = '*' ∧ rest.head? = some '/') ∧ NoClosing rest := by
  unfold NoClosing
  rw [List.infix_cons_iff, not_or]
  refine and_congr (not_congr ?_) Iff.rfl
  cases rest with
  | nil => simp
  | cons d rest => simp [eq_comm]

/-! ## Classes of first characters -/

namespace CharClass

theorem of_eq_blank_iff {c : Char} : of c = blank ↔ isBlank c := by
  constructor
  · intro h
    unfold of at h
    repeat' split at h
    all_goals first | rfl | cases h
  · intro h
    simp only [isBlank, Bool.or_eq_true, beq_iff_eq] at h
    rcases h with ((rfl | rfl) | rfl) | rfl <;> rfl

theorem of_eq_digit_iff {c : Char} : of c = digit ↔ c.isDigit := by
  constructor
  · intro h
    unfold of at h
    repeat' split at h
    all_goals first | assumption | cases h
  · intro h
    unfold of
    repeat' split
    all_goals first | rfl | exact absurd h (by decide)

/-- White space is no digit. -/
theorem isDigit_of_isBlank {c : Char} (blank : isBlank c) : c.isDigit = false := by
  rw [← Bool.not_eq_true, ← of_eq_digit_iff, of_eq_blank_iff.2 blank]
  intro same
  cases same

/-- No letter is a digit: the codes of the digits end before those of the letters begin. -/
theorem not_isDigit_of_isLetter {c : Char} (isLetter : isLetter c) : c.isDigit = false := by
  rw [← Bool.not_eq_true]
  intro isDigit
  have low : c.toNat ≤ '9'.toNat := (Char.isDigit_iff_toNat.1 isDigit).2
  have high : 'A'.toNat ≤ c.toNat := by
    rcases Bool.or_eq_true_iff.1 isLetter with alpha | underscore
    · rcases Bool.or_eq_true_iff.1 alpha with upper | lower
      · exact UInt32.le_iff_toNat_le.1 (of_decide_eq_true upper).1
      · have above := of_decide_eq_true (Bool.and_eq_true_iff.1 lower).1
        exact Nat.le_trans (by decide) (UInt32.le_iff_toNat_le.1 above)
    · obtain rfl := beq_iff_eq.1 underscore
      decide
  exact absurd (Nat.le_trans high low) (by decide)

theorem of_eq_letter_iff {c : Char} : of c = letter ↔ isLetter c := by
  constructor
  · intro h
    unfold of at h
    repeat' split at h
    all_goals first | assumption | cases h
  · intro h
    have noDigit := not_isDigit_of_isLetter h
    unfold of
    repeat' split
    all_goals first | rfl | exact absurd h (by decide) | simp_all

theorem of_eq_foreign_iff {c : Char} : of c = foreign ↔ Foreign c := by
  constructor
  · intro h
    unfold of at h
    repeat' split at h
    all_goals try cases h
    simp_all [Foreign, isCodeChar, isWordChar, isBlank]
  · intro h
    unfold of
    repeat' split
    all_goals first
      | rfl
      | exact absurd h (by decide)
      | simp_all [Foreign, isCodeChar, isWordChar]

end CharClass

end LoxScan
