/-
# `LoxScan.Lexeme` — the texts of tokens, by form

A lexeme is a text of one of four forms: a mark, a string in its quotes, a
number, or a word.  The form keeps the parts, and the text, the kind and the
value are read off it.  Nothing here says which lexemes a text can hold: that
the body of a string has no quote, or that digits are digits, is a fact about
the scan.
-/
import LoxScan.Binary64.Shown
import LoxScan.Kind

namespace LoxScan

/-! ## Values -/

/-- The value of a token. -/
inductive Literal where
  | text (value : String)
  | number (value : Binary64)
deriving DecidableEq

namespace Literal

/-- A text as it is, a number by its shortest digits. -/
def display : Literal → String
  | text value => value
  | number value => value.shown

/-- Equality of values; numbers are equal as numbers. -/
def equal : Literal → Literal → Bool
  | text one, text other => one == other
  | number one, number other => one.equal other
  | _, _ => false

/-- Equality of values where there need not be one. -/
def agree : Option Literal → Option Literal → Bool
  | none, none => true
  | some one, some other => one.equal other
  | _, _ => false

end Literal

/-! ## Lexemes -/

/-- The text of a token, in parts.  A number has no point if its fraction has no digit. -/
inductive Lexeme where
  | mark (mark : Mark)
  | quoted (body : List Char)
  | number (whole fraction : List Char)
  | word (letters : List Char)
deriving DecidableEq

namespace Lexeme

/-- The characters of a lexeme. -/
def text : Lexeme → List Char
  | mark m => m.spelling.toList
  | quoted body => '"' :: (body ++ ['"'])
  | number whole fraction => whole ++ if fraction = [] then [] else '.' :: fraction
  | word letters => letters

/-- The kind of a lexeme. -/
def kind : Lexeme → Kind
  | mark m => .mark m
  | quoted _ => .string
  | number _ _ => .number
  | word letters => .ofWord (String.ofList letters)

/-- The number that digits before and after a point denote, correctly rounded. -/
def decimalValue (whole fraction : List Char) : Binary64 :=
  .nearest (Nat.ofDigitChars 10 (whole ++ fraction) 0) (Binary64.power 10 fraction.length)

/-- The value of a lexeme: what a string has between its quotes, or the number written. -/
def literal? : Lexeme → Option Literal
  | quoted body => some (.text (String.ofList body))
  | number whole fraction => some (.number (decimalValue whole fraction))
  | _ => none

end Lexeme

end LoxScan
