/-
# `LoxScan.Alphabet` — what a character can begin

The first character of a piece of text decides what the piece is, up to a short
look at what follows.  `CharClass.of` sorts all characters into eight classes.
Letters and digits are those of ASCII: every other character, `é` and the
Arabic digits included, is foreign.
-/
import LoxScan.Kind

namespace LoxScan

/-! ## Words -/

/-- The letters, with the underscore among them. -/
def isLetter (c : Char) : Bool :=
  c.isAlpha || c == '_'

/-- What may follow the first letter of a word. -/
def isWordChar (c : Char) : Bool :=
  isLetter c || c.isDigit

/-! ## Classes -/

/-- What a piece of text can be, judged by its first character: white space, which is dropped; a
mark whatever follows; a mark that an equals sign right after it joins to another one; a division
or a comment, after a slash; a string, after a double quote; a number; a word; or, after any other
character, nothing of the language. -/
inductive CharClass where
  | blank
  | lone (mark : Mark)
  | joining (alone joined : Mark)
  | slash
  | quote
  | digit
  | letter
  | foreign
deriving DecidableEq

namespace CharClass

/-- The class of a character. -/
def of (c : Char) : CharClass :=
  match c with
  | ' ' | '\r' | '\t' | '\n' => blank
  | '(' => lone .leftParen
  | ')' => lone .rightParen
  | '{' => lone .leftBrace
  | '}' => lone .rightBrace
  | ',' => lone .comma
  | '.' => lone .dot
  | '-' => lone .minus
  | '+' => lone .plus
  | ';' => lone .semicolon
  | '*' => lone .star
  | '!' => joining .bang .bangEqual
  | '=' => joining .equal .equalEqual
  | '<' => joining .less .lessEqual
  | '>' => joining .greater .greaterEqual
  | '/' => slash
  | '"' => quote
  | c => if c.isDigit then digit else if isLetter c then letter else foreign

theorem of_eq_lone {c : Char} {mark : Mark} (h : of c = lone mark) :
    mark.spelling.toList = [c] := by
  unfold of at h
  repeat' split at h
  all_goals cases h <;> decide

theorem of_eq_joining {c : Char} {alone joined : Mark} (h : of c = joining alone joined) :
    alone.spelling.toList = [c] ∧ joined.spelling.toList = [c, '='] := by
  unfold of at h
  repeat' split at h
  all_goals cases h <;> decide

theorem of_eq_slash {c : Char} (h : of c = slash) : c = '/' := by
  unfold of at h
  repeat' split at h
  all_goals cases h <;> rfl

theorem of_eq_quote {c : Char} (h : of c = quote) : c = '"' := by
  unfold of at h
  repeat' split at h
  all_goals cases h <;> rfl

end CharClass

end LoxScan
