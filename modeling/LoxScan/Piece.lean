/-
# `LoxScan.Piece` — cutting a text into pieces

A text is a row of pieces: white space and comments, lexemes, characters that
are none of the language's, and, at most once and at the very end, a string that
is never closed.  `cut` takes the first piece off a text; which piece it is
depends on the first character and on what follows it, and on nothing before it.

What is proved: a cut loses nothing and adds nothing (`text_cut`), and the piece
it takes is never empty (`text_cut_ne_nil`).  Hence what is left is shorter, the
cutting ends, and the pieces of a text put together are the text
(`flatMap_text_pieces`).
-/
import LoxScan.Alphabet
import LoxScan.Lexeme

namespace LoxScan

/-- A stretch of a text that the scan takes in one step: white space or a comment, a lexeme, a
character that begins no piece of the language, or an opening quote with all that follows it when
no quote closes it. -/
inductive Piece where
  | trivia (text : List Char)
  | lexeme (lexeme : Lexeme)
  | stray (c : Char)
  | openString (body : List Char)
deriving DecidableEq

namespace Piece

/-- The characters of a piece. -/
def text : Piece → List Char
  | trivia text => text
  | lexeme l => l.text
  | stray c => [c]
  | openString body => '"' :: body

/-! ## The parts of a cut -/

/-- Whether a character does not end a line. -/
def isInLine (c : Char) : Bool :=
  c != '\n'

/-- Whether a character does not end a string. -/
def isInString (c : Char) : Bool :=
  c != '"'

/-- A text up to the end of its first `*/`, and what follows; without a `*/`, all of it. -/
def splitComment : List Char → List Char × List Char
  | [] => ([], [])
  | c :: rest =>
    if c = '*' ∧ rest.head? = some '/' then (['*', '/'], rest.tail)
    else
      let split := splitComment rest
      (c :: split.1, split.2)

/-- The digits after a point at the head of a text, and what follows them; a point without a digit
after it is left where it is. -/
def splitFraction (text : List Char) : List Char × List Char :=
  match text with
  | '.' :: d :: rest =>
    if d.isDigit then (d :: rest.takeWhile Char.isDigit, rest.dropWhile Char.isDigit)
    else ([], text)
  | _ => ([], text)

/-- The piece that begins with a slash before `rest`, and what follows it. -/
def cutSlash (rest : List Char) : Piece × List Char :=
  match rest with
  | '/' :: body => (trivia ('/' :: '/' :: body.takeWhile isInLine), body.dropWhile isInLine)
  | '*' :: body => (trivia ('/' :: '*' :: (splitComment body).1), (splitComment body).2)
  | _ => (lexeme (.mark .slash), rest)

/-- The piece that begins with a quote before `rest`, and what follows it. -/
def cutQuote (rest : List Char) : Piece × List Char :=
  match rest.dropWhile isInString with
  | [] => (openString rest, [])
  | _ :: after => (lexeme (.quoted (rest.takeWhile isInString)), after)

/-- The number that begins with the digit `c` before `rest`, and what follows it. -/
def cutNumber (c : Char) (rest : List Char) : Piece × List Char :=
  let split := splitFraction (rest.dropWhile Char.isDigit)
  (lexeme (.number (c :: rest.takeWhile Char.isDigit) split.1), split.2)

/-! ## Cutting -/

/-- The piece that begins with the character `c` before `rest`, and what follows it. -/
def cut (c : Char) (rest : List Char) : Piece × List Char :=
  match CharClass.of c with
  | .blank => (trivia [c], rest)
  | .lone mark => (lexeme (.mark mark), rest)
  | .joining alone joined =>
    if rest.head? = some '=' then (lexeme (.mark joined), rest.tail)
    else (lexeme (.mark alone), rest)
  | .slash => cutSlash rest
  | .quote => cutQuote rest
  | .digit => cutNumber c rest
  | .letter => (lexeme (.word (c :: rest.takeWhile isWordChar)), rest.dropWhile isWordChar)
  | .foreign => (stray c, rest)

/-! ## Nothing is lost -/

theorem splitComment_append (text : List Char) :
    (splitComment text).1 ++ (splitComment text).2 = text := by
  fun_induction splitComment text with
  | case1 => rfl
  | case2 c rest closes =>
    obtain ⟨rfl, closes⟩ := closes
    obtain ⟨tail, rfl⟩ := List.head?_eq_some_iff.1 closes
    rfl
  | case3 c rest _ _ ih => simpa using ih

theorem splitFraction_append (text : List Char) :
    (if (splitFraction text).1 = [] then [] else '.' :: (splitFraction text).1)
      ++ (splitFraction text).2 = text := by
  unfold splitFraction
  split
  · split
    · simp
    · rfl
  · rfl

theorem text_cutSlash (rest : List Char) :
    (cutSlash rest).1.text ++ (cutSlash rest).2 = '/' :: rest := by
  unfold cutSlash
  split
  · simp [text]
  · simp [text, splitComment_append]
  · rfl

theorem text_cutQuote (rest : List Char) :
    (cutQuote rest).1.text ++ (cutQuote rest).2 = '"' :: rest := by
  unfold cutQuote
  split
  · simp [text]
  · next c after found =>
    have stop : isInString c = false := by
      have := List.head?_dropWhile_not isInString rest
      simpa [found] using this
    have split := List.takeWhile_append_dropWhile (p := isInString) (l := rest)
    rw [found] at split
    have : c = '"' := by simpa [isInString] using stop
    subst this
    simp [text, Lexeme.text, split]

theorem text_cutNumber (c : Char) (rest : List Char) :
    (cutNumber c rest).1.text ++ (cutNumber c rest).2 = c :: rest := by
  simp only [cutNumber, text, Lexeme.text, List.append_assoc, splitFraction_append]
  simp

/-- A cut splits the text and changes nothing: each class of first characters by its own split. -/
theorem text_cut (c : Char) (rest : List Char) :
    (cut c rest).1.text ++ (cut c rest).2 = c :: rest := by
  unfold cut
  split
  · simp [text]
  · next mark found => simp [text, Lexeme.text, CharClass.of_eq_lone found]
  · next alone joined found =>
    have spelled := CharClass.of_eq_joining found
    split
    · next equals =>
      obtain ⟨tail, rfl⟩ := List.head?_eq_some_iff.1 equals
      simp [text, Lexeme.text, spelled.2]
    · simp [text, Lexeme.text, spelled.1]
  · next found => rw [CharClass.of_eq_slash found]; exact text_cutSlash rest
  · next found => rw [CharClass.of_eq_quote found]; exact text_cutQuote rest
  · exact text_cutNumber c rest
  · simp [text, Lexeme.text]
  · simp [text]

/-- A piece that is cut off has at least one character. -/
theorem text_cut_ne_nil (c : Char) (rest : List Char) : (cut c rest).1.text ≠ [] := by
  unfold cut cutSlash cutQuote cutNumber
  repeat' split
  all_goals simp [text, Lexeme.text, Mark.spelling_ne_empty]

/-- What a cut leaves is no longer than what followed the first character. -/
theorem length_cut_le (c : Char) (rest : List Char) : (cut c rest).2.length ≤ rest.length := by
  have whole := congrArg List.length (text_cut c rest)
  have := List.length_pos_iff.2 (text_cut_ne_nil c rest)
  simp only [List.length_append, List.length_cons] at whole
  omega

/-! ## All pieces -/

/-- All pieces of a text, from the first to the last. -/
def pieces : List Char → List Piece
  | [] => []
  | c :: rest => (cut c rest).1 :: pieces (cut c rest).2
termination_by text => text.length
decreasing_by exact Nat.lt_succ_of_le (length_cut_le c rest)

@[simp] theorem pieces_nil : pieces [] = [] := by
  rw [pieces]

theorem pieces_cons (c : Char) (rest : List Char) :
    pieces (c :: rest) = (cut c rest).1 :: pieces (cut c rest).2 := by
  rw [pieces]

/-- The pieces of a text put together are the text. -/
theorem flatMap_text_pieces (source : List Char) : (pieces source).flatMap text = source := by
  fun_induction pieces source with
  | case1 => rfl
  | case2 c rest ih => rw [List.flatMap_cons, ih, text_cut]

end Piece

end LoxScan
