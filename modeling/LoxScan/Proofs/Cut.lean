/-
# `LoxScan.Proofs.Cut` — what a cut takes, said once

`Piece.cut` is a function: it reads off which piece is next.  Here it is given
by a relation that does not look ahead by itself.  `piece.StandsBefore rest`
says two things of a piece in its place: its parts are what its form asks for,
and what follows does not carry it on.  The relation and the function determine
each other (`Piece.cut_eq_iff`), and so do `Piece.pieces` and rows of pieces
each of which stands before the next (`Piece.pieces_eq_iff`).

Everything later uses these two equivalences and opens no cut again: left to
right for what a scan found, right to left to compute the scan of a text that
was put together.
-/
import Mathlib.Data.List.TakeWhile
import LoxScan.Piece
import LoxScan.Proofs.Grammar

namespace LoxScan

/-! ## Where a run of characters stops -/

/-- A text does not go on with a character of a class. -/
def Stops (p : Char → Bool) (rest : List Char) : Prop :=
  ∀ c ∈ rest.head?, p c = false

theorem stops_nil (p : Char → Bool) : Stops p [] := by
  intro c h
  cases h

theorem stops_cons {p : Char → Bool} {c : Char} {rest : List Char} :
    Stops p (c :: rest) ↔ p c = false := by
  simp [Stops]

theorem stops_append {p : Char → Bool} {rest : List Char} (nonempty : rest ≠ [])
    (more : List Char) : Stops p (rest ++ more) ↔ Stops p rest := by
  obtain ⟨c, tail, rfl⟩ := List.exists_cons_of_ne_nil nonempty
  rw [List.cons_append, stops_cons, stops_cons]

theorem stops_dropWhile (p : Char → Bool) (text : List Char) : Stops p (text.dropWhile p) := by
  intro c h
  have stopped := List.head?_dropWhile_not p text
  rw [Option.mem_def.1 h] at stopped
  simpa using stopped

theorem takeWhile_append_of_stops {p : Char → Bool} {text rest : List Char}
    (all : ∀ c ∈ text, p c) (stops : Stops p rest) : (text ++ rest).takeWhile p = text := by
  rw [List.takeWhile_append_of_pos all]
  cases rest with
  | nil => simp
  | cons c rest => simp [stops_cons.1 stops]

theorem dropWhile_append_of_stops {p : Char → Bool} {text rest : List Char}
    (all : ∀ c ∈ text, p c) (stops : Stops p rest) : (text ++ rest).dropWhile p = rest := by
  rw [List.dropWhile_append_of_pos all]
  cases rest with
  | nil => rfl
  | cons c rest => simp [stops_cons.1 stops]

/-- A text goes on as a fraction does: a point, and a digit after it. -/
def StartsFraction (rest : List Char) : Prop :=
  ∃ d tail, rest = '.' :: d :: tail ∧ d.isDigit

/-- The characters that make another mark, or a comment, of a mark that they follow. -/
def Mark.grows : Mark → Char → Bool
  | .bang, c | .equal, c | .less, c | .greater, c => c == '='
  | .slash, c => c == '/' || c == '*'
  | _, _ => false

namespace CharClass

theorem grows_of_eq_lone {c : Char} {mark : Mark} (found : of c = lone mark) (d : Char) :
    mark.grows d = false := by
  unfold of at found
  repeat' split at found
  all_goals cases found <;> rfl

theorem grows_of_eq_joining {c : Char} {alone joined : Mark} (found : of c = joining alone joined)
    (d : Char) : alone.grows d = (d == '=') ∧ joined.grows d = false := by
  unfold of at found
  repeat' split at found
  all_goals cases found <;> exact ⟨rfl, rfl⟩

end CharClass

/-! ## The relation -/

namespace Lexeme

/-- The parts of a lexeme are what its form asks for. -/
inductive WellFormed : Lexeme → Prop
  | mark {mark : Mark} : WellFormed (.mark mark)
  | quoted {body : List Char} : '"' ∉ body → WellFormed (.quoted body)
  | whole {digits : List Char} : IsDigits digits → WellFormed (.number digits [])
  | decimal {whole fraction : List Char} : IsDigits whole → IsDigits fraction →
      WellFormed (.number whole fraction)
  | word {c : Char} {letters : List Char} : isLetter c → (∀ d ∈ letters, isWordChar d) →
      WellFormed (.word (c :: letters))

/-- What follows a lexeme does not carry it on. -/
def StopsBefore : Lexeme → List Char → Prop
  | mark m, rest => Stops m.grows rest
  | quoted _, _ => True
  | number _ fraction, rest => Stops Char.isDigit rest ∧ (fraction = [] → ¬ StartsFraction rest)
  | word _, rest => Stops isWordChar rest

/-- Nothing carries a lexeme on at the end of a text. -/
theorem stopsBefore_nil (l : Lexeme) : l.StopsBefore [] := by
  cases l with
  | mark m => exact stops_nil _
  | quoted => trivial
  | number =>
    refine ⟨stops_nil _, ?_⟩
    rintro - ⟨d, tail, none, -⟩
    cases none
  | word => exact stops_nil _

/-- White space carries no lexeme on. -/
theorem stopsBefore_blank (l : Lexeme) {c : Char} (blank : isBlank c) (rest : List Char) :
    l.StopsBefore (c :: rest) := by
  simp only [isBlank, Bool.or_eq_true, beq_iff_eq] at blank
  have isSpace : c = ' ' ∨ c = '\r' ∨ c = '\t' ∨ c = '\n' := by
    simpa only [or_assoc] using blank
  cases l with
  | mark m =>
    refine stops_cons.2 ?_
    rcases isSpace with rfl | rfl | rfl | rfl <;> cases m <;> rfl
  | quoted => trivial
  | number whole fraction =>
    refine ⟨stops_cons.2 ?_, ?_⟩
    · rcases isSpace with rfl | rfl | rfl | rfl <;> rfl
    · rintro - ⟨d, tail, same, -⟩
      obtain ⟨rfl, -⟩ := List.cons.inj same
      exact absurd isSpace (by decide)
  | word =>
    refine stops_cons.2 ?_
    rcases isSpace with rfl | rfl | rfl | rfl <;> rfl

end Lexeme

namespace Piece

/-- A piece, in front of `rest`, is well formed and complete. -/
inductive StandsBefore : Piece → List Char → Prop
  | blank {c : Char} {rest : List Char} : isBlank c → StandsBefore (.trivia [c]) rest
  | line {body rest : List Char} : '\n' ∉ body → Stops isInLine rest →
      StandsBefore (.trivia ('/' :: '/' :: body)) rest
  | block {body rest : List Char} : NoClosing body →
      StandsBefore (.trivia ('/' :: '*' :: (body ++ ['*', '/']))) rest
  | unclosed {body : List Char} : NoClosing body →
      StandsBefore (.trivia ('/' :: '*' :: body)) []
  | lexeme {l : Lexeme} {rest : List Char} : l.WellFormed → l.StopsBefore rest →
      StandsBefore (.lexeme l) rest
  | stray {c : Char} {rest : List Char} : Foreign c → StandsBefore (.stray c) rest
  | openString {body : List Char} : '"' ∉ body → StandsBefore (.openString body) []

/-! ## Comments and strings -/

/-- A text goes on throughout if it does not hold the character that ends it. -/
theorem forall_bne_iff {stop : Char} {body : List Char} :
    (∀ c ∈ body, (c != stop) = true) ↔ stop ∉ body := by
  constructor
  · intro all mem
    exact bne_iff_ne.1 (all stop mem) rfl
  · intro absent c mem
    refine bne_iff_ne.2 ?_
    rintro rfl
    exact absent mem

theorem forall_isInLine {body : List Char} : (∀ c ∈ body, isInLine c) ↔ '\n' ∉ body :=
  forall_bne_iff

theorem forall_isInString {body : List Char} : (∀ c ∈ body, isInString c) ↔ '"' ∉ body :=
  forall_bne_iff

/-- The first closing is where the split is. -/
theorem splitComment_closed {body : List Char} (rest : List Char) (goesOn : NoClosing body) :
    splitComment (body ++ '*' :: '/' :: rest) = (body ++ ['*', '/'], rest) := by
  induction body with
  | nil => rfl
  | cons c body ih =>
    obtain ⟨here, later⟩ := noClosing_cons.1 goesOn
    have notHere : ¬ (c = '*' ∧ (body ++ '*' :: '/' :: rest).head? = some '/') := by
      rintro ⟨rfl, next⟩
      cases body with
      | nil => simp at next
      | cons d body => exact here ⟨rfl, by simpa using next⟩
    rw [List.cons_append, splitComment, if_neg notHere, ih later]
    rfl

theorem splitComment_open {body : List Char} (goesOn : NoClosing body) :
    splitComment body = (body, []) := by
  induction body with
  | nil => rfl
  | cons c body ih =>
    obtain ⟨here, later⟩ := noClosing_cons.1 goesOn
    rw [splitComment, if_neg here, ih later]

/-- A text has a first closing or none. -/
theorem exists_closing (text : List Char) :
    NoClosing text ∨ ∃ body rest, NoClosing body ∧ text = body ++ '*' :: '/' :: rest := by
  induction text with
  | nil => exact Or.inl noClosing_nil
  | cons c text ih =>
    by_cases here : c = '*' ∧ text.head? = some '/'
    · obtain ⟨rfl, next⟩ := here
      obtain ⟨rest, rfl⟩ := List.head?_eq_some_iff.1 next
      exact Or.inr ⟨[], rest, noClosing_nil, rfl⟩
    · rcases ih with none | ⟨body, rest, none, rfl⟩
      · exact Or.inl (noClosing_cons.2 ⟨here, none⟩)
      · refine Or.inr ⟨c :: body, rest, noClosing_cons.2 ⟨?_, none⟩, rfl⟩
        rintro ⟨rfl, next⟩
        obtain ⟨tail, rfl⟩ := List.head?_eq_some_iff.1 next
        exact here ⟨rfl, rfl⟩

/-! ## One cut for each form -/

theorem cut_blank {c : Char} (blank : isBlank c) (rest : List Char) :
    cut c rest = (.trivia [c], rest) := by
  simp only [cut, CharClass.of_eq_blank_iff.2 blank]

theorem cut_line {body rest : List Char} (noBreak : '\n' ∉ body) (stops : Stops isInLine rest) :
    cut '/' ('/' :: (body ++ rest)) = (.trivia ('/' :: '/' :: body), rest) := by
  have all := forall_isInLine.2 noBreak
  show cutSlash ('/' :: (body ++ rest)) = _
  simp only [cutSlash, takeWhile_append_of_stops all stops, dropWhile_append_of_stops all stops]

theorem cut_block {body : List Char} (goesOn : NoClosing body) (rest : List Char) :
    cut '/' ('*' :: (body ++ '*' :: '/' :: rest)) =
      (.trivia ('/' :: '*' :: (body ++ ['*', '/'])), rest) := by
  show cutSlash ('*' :: (body ++ '*' :: '/' :: rest)) = _
  simp only [cutSlash, splitComment_closed rest goesOn]

theorem cut_unclosed {body : List Char} (goesOn : NoClosing body) :
    cut '/' ('*' :: body) = (.trivia ('/' :: '*' :: body), []) := by
  show cutSlash ('*' :: body) = _
  simp only [cutSlash, splitComment_open goesOn]

theorem cut_slash {rest : List Char} (stops : Stops Mark.slash.grows rest) :
    cut '/' rest = (.lexeme (.mark .slash), rest) := by
  show cutSlash rest = _
  unfold cutSlash
  split
  · exact absurd (stops_cons.1 stops) (by decide)
  · exact absurd (stops_cons.1 stops) (by decide)
  · rfl

/-- A character that an equals sign could join is cut alone where there is none. -/
theorem cut_alone {c : Char} {alone joined : Mark} {rest : List Char}
    (found : CharClass.of c = .joining alone joined) (stops : Stops (· == '=') rest) :
    cut c rest = (.lexeme (.mark alone), rest) := by
  have notEquals : ¬ rest.head? = some '=' := by
    intro next
    exact absurd (stops '=' next) (by decide)
  simp only [cut, found, if_neg notEquals]

/-- A mark is cut where nothing makes more of it. -/
theorem cut_mark {mark : Mark} {c : Char} {tail rest : List Char}
    (spelled : mark.spelling.toList = c :: tail) (stops : Stops mark.grows rest) :
    cut c (tail ++ rest) = (.lexeme (.mark mark), rest) := by
  cases mark with
  | bang => cases spelled; exact cut_alone rfl stops
  | equal => cases spelled; exact cut_alone rfl stops
  | less => cases spelled; exact cut_alone rfl stops
  | greater => cases spelled; exact cut_alone rfl stops
  | slash => cases spelled; exact cut_slash stops
  | _ => cases spelled; rfl

theorem cut_quoted {body : List Char} (noQuote : '"' ∉ body) (rest : List Char) :
    cut '"' (body ++ '"' :: rest) = (.lexeme (.quoted body), rest) := by
  have all := forall_isInString.2 noQuote
  have stops : Stops isInString ('"' :: rest) := stops_cons.2 (by decide)
  show cutQuote (body ++ '"' :: rest) = _
  simp only [cutQuote, dropWhile_append_of_stops all stops, takeWhile_append_of_stops all stops]

theorem cut_openString {body : List Char} (noQuote : '"' ∉ body) :
    cut '"' body = (.openString body, []) := by
  have nothing : body.dropWhile isInString = [] := by
    simpa using dropWhile_append_of_stops (forall_isInString.2 noQuote) (stops_nil isInString)
  show cutQuote body = _
  simp only [cutQuote, nothing]

theorem splitFraction_of_not {rest : List Char} (stops : ¬ StartsFraction rest) :
    splitFraction rest = ([], rest) := by
  unfold splitFraction
  split
  · next d tail =>
    rw [if_neg]
    intro isDigit
    exact stops ⟨d, tail, rfl, isDigit⟩
  · rfl

theorem splitFraction_point {fraction rest : List Char} (digits : IsDigits fraction)
    (stops : Stops Char.isDigit rest) :
    splitFraction ('.' :: (fraction ++ rest)) = (fraction, rest) := by
  obtain ⟨nonempty, all⟩ := digits
  cases fraction with
  | nil => exact absurd rfl nonempty
  | cons d fraction =>
    obtain ⟨first, others⟩ := List.forall_mem_cons.1 all
    simp only [List.cons_append, splitFraction, if_pos first,
      takeWhile_append_of_stops others stops, dropWhile_append_of_stops others stops]

theorem cut_whole {d : Char} {digits rest : List Char} (isDigits : IsDigits (d :: digits))
    (stops : Stops Char.isDigit rest) (noFraction : ¬ StartsFraction rest) :
    cut d (digits ++ rest) = (.lexeme (.number (d :: digits) []), rest) := by
  obtain ⟨first, others⟩ := List.forall_mem_cons.1 isDigits.2
  simp only [cut, CharClass.of_eq_digit_iff.2 first, cutNumber,
    takeWhile_append_of_stops others stops, dropWhile_append_of_stops others stops,
    splitFraction_of_not noFraction]

theorem cut_decimal {d : Char} {digits fraction rest : List Char}
    (isDigits : IsDigits (d :: digits)) (isFraction : IsDigits fraction)
    (stops : Stops Char.isDigit rest) :
    cut d (digits ++ '.' :: (fraction ++ rest)) =
      (.lexeme (.number (d :: digits) fraction), rest) := by
  obtain ⟨first, others⟩ := List.forall_mem_cons.1 isDigits.2
  have point : Stops Char.isDigit ('.' :: (fraction ++ rest)) := stops_cons.2 (by decide)
  simp only [cut, CharClass.of_eq_digit_iff.2 first, cutNumber,
    takeWhile_append_of_stops others point, dropWhile_append_of_stops others point,
    splitFraction_point isFraction stops]

theorem cut_word {c : Char} {letters rest : List Char} (first : isLetter c)
    (all : ∀ d ∈ letters, isWordChar d) (stops : Stops isWordChar rest) :
    cut c (letters ++ rest) = (.lexeme (.word (c :: letters)), rest) := by
  simp only [cut, CharClass.of_eq_letter_iff.2 first, takeWhile_append_of_stops all stops,
    dropWhile_append_of_stops all stops]

theorem cut_stray {c : Char} (foreign : Foreign c) (rest : List Char) :
    cut c rest = (.stray c, rest) := by
  simp only [cut, CharClass.of_eq_foreign_iff.2 foreign]

/-- A lexeme is cut where nothing carries it on. -/
theorem cut_lexeme {l : Lexeme} {c : Char} {others rest : List Char} (formed : l.WellFormed)
    (stops : l.StopsBefore rest) (whole : l.text ++ rest = c :: others) :
    cut c others = (.lexeme l, rest) := by
  cases formed with
  | @mark mark =>
    cases spelled : mark.spelling.toList with
    | nil => exact absurd (String.toList_eq_nil_iff.1 spelled) mark.spelling_ne_empty
    | cons d tail =>
      rw [Lexeme.text, spelled] at whole
      obtain ⟨rfl, rfl⟩ := whole
      exact cut_mark spelled stops
  | @quoted body noQuote =>
    obtain ⟨rfl, rfl⟩ := whole
    have shape : body ++ '"' :: rest = (body ++ ['"']) ++ rest := by simp
    rw [← cut_quoted noQuote rest, shape]
    rfl
  | @whole digits isDigits =>
    obtain ⟨d, digits, rfl⟩ := List.exists_cons_of_ne_nil isDigits.1
    simp only [Lexeme.text, if_true, List.append_nil] at whole
    obtain ⟨rfl, rfl⟩ := whole
    exact cut_whole isDigits stops.1 (stops.2 rfl)
  | @decimal digits fraction isDigits isFraction =>
    obtain ⟨d, digits, rfl⟩ := List.exists_cons_of_ne_nil isDigits.1
    simp only [Lexeme.text, if_neg isFraction.1, List.append_assoc] at whole
    obtain ⟨rfl, rfl⟩ := whole
    exact cut_decimal isDigits isFraction stops.1
  | word first all =>
    obtain ⟨rfl, rfl⟩ := whole
    exact cut_word first all stops

/-! ## The relation and the function -/

/-- A piece that stands at the front of a text is the one that is cut off it. -/
theorem cut_of_standsBefore {piece : Piece} {c : Char} {others rest : List Char}
    (stands : piece.StandsBefore rest) (whole : piece.text ++ rest = c :: others) :
    cut c others = (piece, rest) := by
  cases stands with
  | blank blank =>
    obtain ⟨rfl, rfl⟩ := whole
    exact cut_blank blank _
  | line noBreak stops =>
    obtain ⟨rfl, rfl⟩ := whole
    exact cut_line noBreak stops
  | @block body _ goesOn =>
    obtain ⟨rfl, rfl⟩ := whole
    have shape : '*' :: (body ++ '*' :: '/' :: rest) = ('*' :: (body ++ ['*', '/'])) ++ rest := by
      simp
    rw [← cut_block goesOn rest, shape]
    rfl
  | @unclosed body goesOn =>
    obtain ⟨rfl, rfl⟩ := whole
    rw [← cut_unclosed goesOn]
    simp
  | lexeme formed stops => exact cut_lexeme formed stops whole
  | stray foreign =>
    obtain ⟨rfl, rfl⟩ := whole
    exact cut_stray foreign _
  | @openString body noQuote =>
    obtain ⟨rfl, rfl⟩ := whole
    rw [← cut_openString noQuote]
    simp

/-! ### What is cut stands in its place -/

theorem standsBefore_cutSlash (rest : List Char) :
    (cutSlash rest).1.StandsBefore (cutSlash rest).2 := by
  unfold cutSlash
  split
  · next body =>
    exact .line (forall_isInLine.1 fun _ mem => List.mem_takeWhile_imp mem)
      (stops_dropWhile isInLine body)
  · next body =>
    rcases exists_closing body with goesOn | ⟨inner, rest, goesOn, rfl⟩
    · rw [splitComment_open goesOn]
      exact .unclosed goesOn
    · rw [splitComment_closed rest goesOn]
      exact .block goesOn
  · next noLine noBlock =>
    refine .lexeme .mark ?_
    intro c next
    obtain ⟨tail, rfl⟩ := List.head?_eq_some_iff.1 next
    simp only [Mark.grows, Bool.or_eq_false_iff, beq_eq_false_iff_ne]
    constructor
    · rintro rfl
      exact noLine tail rfl
    · rintro rfl
      exact noBlock tail rfl

theorem standsBefore_cutQuote (rest : List Char) :
    (cutQuote rest).1.StandsBefore (cutQuote rest).2 := by
  unfold cutQuote
  split
  · next nothing => exact .openString (forall_isInString.1 (List.dropWhile_eq_nil_iff.1 nothing))
  · exact .lexeme (.quoted (forall_isInString.1 fun _ mem => List.mem_takeWhile_imp mem)) trivial

theorem standsBefore_cutNumber {c : Char} (isDigit : c.isDigit) (rest : List Char) :
    (cutNumber c rest).1.StandsBefore (cutNumber c rest).2 := by
  have whole : IsDigits (c :: rest.takeWhile Char.isDigit) :=
    ⟨List.cons_ne_nil _ _,
      List.forall_mem_cons.2 ⟨isDigit, fun _ mem => List.mem_takeWhile_imp mem⟩⟩
  have stops := stops_dropWhile Char.isDigit rest
  by_cases fraction : StartsFraction (rest.dropWhile Char.isDigit)
  · obtain ⟨d, tail, found, first⟩ := fraction
    have digits : IsDigits (d :: tail.takeWhile Char.isDigit) :=
      ⟨List.cons_ne_nil _ _,
        List.forall_mem_cons.2 ⟨first, fun _ mem => List.mem_takeWhile_imp mem⟩⟩
    simp only [cutNumber, found, splitFraction, if_pos first]
    exact .lexeme (.decimal whole digits)
      ⟨stops_dropWhile Char.isDigit tail, fun none => absurd none (List.cons_ne_nil _ _)⟩
  · simp only [cutNumber, splitFraction_of_not fraction]
    exact .lexeme (.whole whole) ⟨stops, fun _ => fraction⟩

/-- The piece that is cut off a text stands before what the cut leaves. -/
theorem standsBefore_cut (c : Char) (rest : List Char) :
    (cut c rest).1.StandsBefore (cut c rest).2 := by
  unfold cut
  split
  · next found => exact .blank (CharClass.of_eq_blank_iff.1 found)
  · next mark found => exact .lexeme .mark fun d _ => CharClass.grows_of_eq_lone found d
  · next alone joined found =>
    split
    · exact .lexeme .mark fun d _ => (CharClass.grows_of_eq_joining found d).2
    · next notEquals =>
      refine .lexeme .mark ?_
      intro d next
      rw [(CharClass.grows_of_eq_joining found d).1, beq_eq_false_iff_ne]
      rintro rfl
      exact notEquals next
  · exact standsBefore_cutSlash rest
  · exact standsBefore_cutQuote rest
  · next found => exact standsBefore_cutNumber (CharClass.of_eq_digit_iff.1 found) rest
  · next found =>
    exact .lexeme
      (.word (CharClass.of_eq_letter_iff.1 found) fun _ mem => List.mem_takeWhile_imp mem)
      (stops_dropWhile isWordChar rest)
  · next found => exact .stray (CharClass.of_eq_foreign_iff.1 found)

theorem text_ne_nil {piece : Piece} {rest : List Char} (stands : piece.StandsBefore rest) :
    piece.text ≠ [] := by
  intro none
  cases stands with
  | lexeme formed stops =>
    cases formed with
    | @mark mark => exact mark.spelling_ne_empty (String.toList_eq_nil_iff.1 none)
    | whole isDigits => exact isDigits.1 (List.append_eq_nil_iff.1 none).1
    | decimal isDigits => exact isDigits.1 (List.append_eq_nil_iff.1 none).1
    | quoted => cases none
    | word => cases none
  | _ => cases none

theorem StandsBefore.wellFormed {l : Lexeme} {rest : List Char}
    (stands : (Piece.lexeme l).StandsBefore rest) : l.WellFormed := by
  cases stands with
  | lexeme formed => exact formed

theorem standsBefore_lexeme_iff {l : Lexeme} {rest : List Char} (formed : l.WellFormed) :
    (Piece.lexeme l).StandsBefore rest ↔ l.StopsBefore rest := by
  constructor
  · intro stands
    cases stands with
    | lexeme _ stops => exact stops
  · intro stops
    exact .lexeme formed stops

/-- A piece that something follows stands before any other rest that carries no more on. -/
theorem StandsBefore.congr {piece : Piece} {rest rest' : List Char}
    (stands : piece.StandsBefore rest) (more : rest ≠ [])
    (stops : ∀ p, Stops p rest → Stops p rest')
    (fraction : StartsFraction rest' → StartsFraction rest) : piece.StandsBefore rest' := by
  cases stands with
  | blank blank => exact .blank blank
  | line noBreak here => exact .line noBreak (stops _ here)
  | block goesOn => exact .block goesOn
  | @lexeme l _ formed here =>
    refine .lexeme formed ?_
    cases l with
    | mark m => exact stops _ here
    | quoted body => trivial
    | number whole digits =>
      exact ⟨stops _ here.1, fun none goesOn => here.2 none (fraction goesOn)⟩
    | word letters => exact stops _ here
  | stray foreign => exact .stray foreign
  | unclosed => exact absurd rfl more
  | openString => exact absurd rfl more

/-- A cut takes the piece that stands at the front of the text, and there is exactly one. -/
theorem cut_eq_iff {piece : Piece} {c : Char} {others rest : List Char} :
    cut c others = (piece, rest) ↔
      piece.text ++ rest = c :: others ∧ piece.StandsBefore rest := by
  constructor
  · intro found
    have whole := text_cut c others
    have stands := standsBefore_cut c others
    rw [found] at whole stands
    exact ⟨whole, stands⟩
  · rintro ⟨whole, stands⟩
    exact cut_of_standsBefore stands whole

/-! ## All pieces of a text -/

/-- Pieces make up a text, and each stands before the text of those after it. -/
inductive IsRow : List Piece → List Char → Prop
  | nil : IsRow [] []
  | cons {piece : Piece} {pieces : List Piece} {rest : List Char} : piece.StandsBefore rest →
      IsRow pieces rest → IsRow (piece :: pieces) (piece.text ++ rest)

theorem isRow_cons_iff {piece : Piece} {pieces : List Piece} {rest : List Char} :
    IsRow (piece :: pieces) (piece.text ++ rest) ↔ piece.StandsBefore rest ∧ IsRow pieces rest := by
  constructor
  · intro isRow
    generalize whole : piece.text ++ rest = text at isRow
    cases isRow with
    | cons stands later =>
      obtain rfl := List.append_cancel_left whole
      exact ⟨stands, later⟩
  · rintro ⟨stands, later⟩
    exact .cons stands later

theorem pieces_append {piece : Piece} {rest : List Char} (stands : piece.StandsBefore rest) :
    pieces (piece.text ++ rest) = piece :: pieces rest := by
  cases whole : piece.text ++ rest with
  | nil => exact absurd (List.append_eq_nil_iff.1 whole).1 (text_ne_nil stands)
  | cons c others => rw [pieces_cons, cut_of_standsBefore stands whole]

/-- The pieces of a text are the only row that makes it up. -/
theorem pieces_eq_iff {row : List Piece} {text : List Char} :
    pieces text = row ↔ IsRow row text := by
  constructor
  · rintro rfl
    fun_induction pieces text with
    | case1 => exact .nil
    | case2 c rest ih =>
      rw [← text_cut c rest]
      exact .cons (standsBefore_cut c rest) ih
  · intro isRow
    induction isRow with
    | nil => exact pieces_nil
    | cons stands _ ih => rw [pieces_append stands, ih]

end Piece

end LoxScan
