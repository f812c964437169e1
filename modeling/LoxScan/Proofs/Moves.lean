/-
# `LoxScan.Proofs.Moves` — within a piece no step fails

A machine reads a piece of a source in many steps, and knows it by bytes alone.  Here
it is set beside the piece.  Of the text from the beginning of the piece on, a part has
been read, and the registers are at the bytes where that part begins and ends
(`Registers.At`); so every slice that a step takes is one between two characters
(`slice_of_split`).  What has been read fits the point that the machine has come to
(`Fits`): in a loop it is a beginning of a piece of that form, which the loop has not
closed, and at the end it is a piece that stands before what is left.

One step from a point of a piece succeeds, comes to another point of the same piece
and is nearer to its end (`leads_of_inside`).  That it is nearer is a matter of a
number (`stepsDue`): each byte that is left counts eight, since between two steps that read
there are fewer than eight that do not.

The stand-in for a character that is not there needs care in two places.  It is in no
class that a loop goes by, so digits and words stop at it; comments and strings do not,
but they ask whether the end is reached.
-/
import LoxScan.Proofs.Machine
import LoxScan.Proofs.Peeking

namespace LoxScan

namespace Machine

/-! ## Registers in their places -/

/-- The registers of a machine that has read `taken` of a piece, with `before` before the piece and
`rest` still to read. -/
structure Registers.At (source : String) (r : Registers) (before taken rest : List Char) :
    Prop where
  split : source.toList = before ++ (taken ++ rest)
  start : r.start = byteLength before
  current : r.current = byteLength (before ++ taken)
  startLine : r.startLine = (Position.start.after before).line

/-- The slice from the byte where a stretch of a source begins to the one where it ends. -/
theorem slice_of_split {source : String} {before text after : List Char}
    (split : source.toList = before ++ (text ++ after)) :
    slice source (byteLength before) (byteLength (before ++ text)) = .ok text := by
  have split' : source.toList = (before ++ text) ++ after := by
    rw [split, List.append_assoc]
  have le : byteLength before ≤ byteLength (before ++ text) := by
    rw [byteLength_append]
    exact Nat.le_add_right _ _
  rw [slice, dif_pos ⟨le, isValid_of_split split, isValid_of_split split'⟩]
  -- that the bytes are in order is a part of the slice, so it is left open here
  have copied : ∃ h, (source.slice ⟨⟨byteLength before⟩, isValid_of_split split⟩
      ⟨⟨byteLength (before ++ text)⟩, isValid_of_split split'⟩ h).copy = String.ofList text := by
    refine String.copy_slice_eq_iff_splits.2
      ⟨String.ofList before, String.ofList after, ⟨?_, ?_⟩, ⟨?_, ?_⟩⟩
    · exact ofList_of_split split
    · exact congrArg String.Pos.Raw.mk (utf8ByteSize_ofList before).symm
    · rw [String.append_assoc]
      exact ofList_of_split split
    · rw [← String.ofList_append]
      exact congrArg String.Pos.Raw.mk (utf8ByteSize_ofList (before ++ text)).symm
  obtain ⟨_, same⟩ := copied
  rw [same, String.toList_ofList]

namespace Registers.At

variable {source : String} {r : Registers} {before taken rest : List Char} {c : Char}

theorem size (here : r.At source before taken rest) :
    source.utf8ByteSize = r.current + byteLength rest := by
  rw [utf8ByteSize_eq, here.split, here.current, byteLength_append, byteLength_append,
    byteLength_append, Nat.add_assoc]

theorem current_eq (here : r.At source before taken rest) :
    r.current = r.start + byteLength taken := by
  rw [here.current, here.start, byteLength_append]

theorem ordered (here : r.At source before taken rest) : r.start ≤ r.current := by
  rw [here.current_eq]
  exact Nat.le_add_right _ _

theorem isAtEnd (here : r.At source before taken rest) : r.isAtEnd source = rest.isEmpty := by
  have size := here.size
  cases rest with
  | nil => simpa [Registers.isAtEnd] using Nat.le_of_eq size
  | cons c rest =>
    have pos := byteLength_pos (List.cons_ne_nil c rest)
    simp [Registers.isAtEnd]
    omega

theorem ahead (here : r.At source before taken rest) : r.ahead source = .ok rest := by
  have split : source.toList = (before ++ taken) ++ (rest ++ []) := by
    rw [here.split, List.append_nil, List.append_assoc]
  have sliced := slice_of_split split
  rw [byteLength_append (before ++ taken), ← here.current, ← here.size] at sliced
  exact sliced

theorem peek (here : r.At source before taken rest) :
    r.peek source = .ok (rest.head?.getD '\x00') := by
  rw [Registers.peek, here.ahead]
  rfl

theorem peekSecond (here : r.At source before taken rest) :
    r.peekSecond source = .ok (rest.tail.head?.getD '\x00') := by
  rw [Registers.peekSecond, here.ahead]
  rfl

theorem taken_eq (here : r.At source before taken rest) : r.taken source = .ok taken := by
  have sliced := slice_of_split here.split
  rw [← here.start, ← here.current] at sliced
  exact sliced

theorem skip (here : r.At source before taken (c :: rest)) :
    (r.skip c.utf8Size).At source before (taken ++ [c]) rest where
  split := by
    rw [here.split, List.append_assoc]
    rfl
  start := here.start
  current := by
    show r.current + c.utf8Size = _
    rw [here.current, ← List.append_assoc, byteLength_append (before ++ taken)]
    rfl
  startLine := here.startLine

theorem advance (here : r.At source before taken (c :: rest)) :
    r.advance source = .ok (r.skip c.utf8Size) := by
  rw [Registers.advance, here.ahead]
  rfl

theorem countLine (here : r.At source before taken rest) (c : Char) :
    (r.countLine c).At source before taken rest := by
  unfold Registers.countLine
  split
  · exact ⟨here.split, here.start, here.current, here.startLine⟩
  · exact here

theorem advanceOver?_some (here : r.At source before taken (c :: rest)) :
    r.advanceOver? source c = .ok (some (r.skip c.utf8Size)) := by
  rw [advanceOver?, here.isAtEnd, here.peek]
  simp [bind, Except.bind, pure, Except.pure]

theorem advanceOver?_none (here : r.At source before taken rest) (other : rest.head? ≠ some c) :
    r.advanceOver? source c = .ok none := by
  rw [advanceOver?, here.isAtEnd, here.peek]
  cases rest with
  | nil => rfl
  | cons d rest =>
    have different : d ≠ c := by simpa using other
    simp [bind, Except.bind, pure, Except.pure, different]

theorem opened (here : r.At source before taken rest)
    (line : r.line = (Position.start.after (before ++ taken)).line) :
    r.opened.At source (before ++ taken) [] rest where
  split := by
    rw [here.split, List.append_assoc]
    rfl
  start := here.current
  current := by
    rw [List.append_nil]
    exact here.current
  startLine := line

theorem span_eq (here : r.At source before taken rest) :
    r.span = (Position.start.after before).spanOf taken := by
  rw [span, here.start, here.current, Position.spanOf, Position.start_after]
  simp [byteLength_append]

end Registers.At

/-! ## What has been read of a piece -/

/-- What has been read at a point of a piece that begins at `p`, and what is still to read. -/
inductive Fits (p : Position) : Point → List Char → List Char → Prop
  | opened {c : Char} {rest : List Char} : Fits p .opened [] (c :: rest)
  | first {c : Char} {rest : List Char} : Fits p (.first c) [c] rest
  | line {body rest : List Char} : '\n' ∉ body → Fits p .line ('/' :: '/' :: body) rest
  | block {body rest : List Char} : NoClosing (body ++ rest.take 1) →
      Fits p .block ('/' :: '*' :: body) rest
  | unclosed {body : List Char} : NoClosing body → Fits p .closing ('/' :: '*' :: body) []
  | closing {body rest : List Char} : NoClosing body →
      Fits p .closing ('/' :: '*' :: body) ('*' :: '/' :: rest)
  | string {body rest : List Char} : '"' ∉ body → Fits p .string ('"' :: body) rest
  | closed {body rest : List Char} : '"' ∉ body → Fits p .closed ('"' :: (body ++ ['"'])) rest
  | whole {digits rest : List Char} : IsDigits digits → Fits p .whole digits rest
  | fraction {whole digits rest : List Char} : IsDigits whole → (∀ d ∈ digits, d.isDigit) →
      (digits = [] → ∃ d ∈ rest.head?, d.isDigit) →
      Fits p .fraction (whole ++ '.' :: digits) rest
  | numeral {whole fraction rest : List Char} : (Lexeme.number whole fraction).WellFormed →
      (Lexeme.number whole fraction).StopsBefore rest →
      Fits p .numeral (Lexeme.number whole fraction).text rest
  | word {c : Char} {letters rest : List Char} : isLetter c → (∀ d ∈ letters, isWordChar d) →
      Fits p .word (c :: letters) rest
  | spelled {l : Lexeme} {rest : List Char} : l.WellFormed → l.StopsBefore rest →
      Fits p (.spelled l.kind l.literal?) l.text rest
  | cut {piece : Piece} {rest : List Char} : piece.StandsBefore rest →
      Fits p (.cut (piece.item? p)) piece.text rest

/-- The part of what has been read whose line breaks have been counted. -/
def Point.counted (taken : List Char) : Point → List Char
  | first _ => []
  | _ => taken

/-- At a point of a piece, with `before` before the piece and `text` from its beginning on, the
registers are in their places, and what has been read fits the point. -/
def Inside (source : String) (point : Point) (r : Registers) (before text : List Char) : Prop :=
  ∃ taken rest, text = taken ++ rest ∧ r.At source before taken rest ∧
    r.line = (Position.start.after (before ++ point.counted taken)).line ∧
    Fits (Position.start.after before) point taken rest

/-! ## Steps within a piece -/

/-- One character closes no comment. -/
theorem noClosing_take_one (text : List Char) : NoClosing (text.take 1) := by
  intro closing
  have := closing.length_le
  have short := List.length_take_le 1 text
  simp only [List.length_cons, List.length_nil] at this
  omega

/-- A comment goes on behind a character that does not begin its closing. -/
theorem noClosing_concat {body rest : List Char} {c : Char} (goesOn : NoClosing (body ++ [c]))
    (here : ¬ (c = '*' ∧ rest.head? = some '/')) : NoClosing (body ++ c :: rest.take 1) := by
  induction body with
  | nil =>
    refine noClosing_cons.2 ⟨?_, noClosing_take_one rest⟩
    rintro ⟨isStar, slash⟩
    refine here ⟨isStar, ?_⟩
    cases rest with
    | nil => exact slash
    | cons d rest => exact slash
  | cons d body ih =>
    obtain ⟨first, later⟩ := noClosing_cons.1 goesOn
    refine noClosing_cons.2 ⟨?_, ih later⟩
    rintro ⟨isStar, slash⟩
    refine first ⟨isStar, ?_⟩
    cases body with
    | nil => exact slash
    | cons e body => exact slash

/-- How many steps a point can be from the next one that reads or from the end of the piece. -/
def Point.rank : Point → Nat
  | opened => 1
  | first _ => 7
  | line | block | string | whole | fraction | word => 6
  | closing | closed | numeral => 5
  | spelled _ _ => 4
  | cut _ => 3

/-- A bound on the steps that are still due, by the bytes that are left and a rank. -/
def stepsDue (source : String) (rank : Nat) (r : Registers) : Nat :=
  8 * (source.utf8ByteSize - r.current) + rank

theorem Point.rank_le (point : Point) : point.rank ≤ 7 := by
  cases point <;> simp [rank]

/-- The step from a point succeeds, does not go back, and leads to another point of the same piece
that is nearer to its end. -/
def Leads (source : String) (point : Point) (r : Registers) (before text : List Char) : Prop :=
  ∃ point' r', r.step source point = .ok (point', r') ∧ Inside source point' r' before text ∧
    r.current ≤ r'.current ∧ stepsDue source point'.rank r' < stepsDue source point.rank r

section Leads

variable {source : String} {r r' : Registers} {point point' : Point}
  {before taken rest : List Char} {c : Char}

theorem line_countLine (here : r.line = (Position.start.after (before ++ taken)).line) (c : Char) :
    (r.countLine c).line = (Position.start.after (before ++ (taken ++ [c]))).line := by
  rw [← List.append_assoc, Position.after_append]
  unfold Registers.countLine
  by_cases newline : c = '\n'
  · rw [if_pos newline, newline, here]
    rfl
  · rw [if_neg newline, here]
    simp [Position.after, newline]

theorem countLine_of_ne (noNewline : c ≠ '\n') : r.countLine c = r :=
  if_neg noNewline

/-- A step that goes on in the source, or that stays where it is and comes to a later point. -/
theorem leads_of (step : r.step source point = .ok (point', r'))
    (there : r'.At source before taken rest)
    (line : r'.line = (Position.start.after (before ++ point'.counted taken)).line)
    (fits : Fits (Position.start.after before) point' taken rest)
    (nearer : r.current < r'.current ∨ r.current = r'.current ∧ point'.rank < point.rank) :
    Leads source point r before (taken ++ rest) := by
  refine ⟨point', r', step, ⟨taken, rest, rfl, there, line, fits⟩, by omega, ?_⟩
  have size := there.size
  have high := point'.rank_le
  rw [stepsDue, stepsDue]
  omega

/-- A step that stays where it is and comes to a later point. -/
theorem leads_to (step : r.step source point = .ok (point', r))
    (here : r.At source before taken rest)
    (line : r.line = (Position.start.after (before ++ point'.counted taken)).line)
    (fits : Fits (Position.start.after before) point' taken rest)
    (less : point'.rank < point.rank) : Leads source point r before (taken ++ rest) :=
  leads_of step here line fits (Or.inr ⟨rfl, less⟩)

/-- A step that reads a character and is in a loop then. -/
theorem leads_on (step : r.step source point = .ok (point', (r.countLine c).skip c.utf8Size))
    (here : r.At source before taken (c :: rest))
    (line : r.line = (Position.start.after (before ++ taken)).line)
    (fits : Fits (Position.start.after before) point' (taken ++ [c]) rest)
    (counted : point'.counted (taken ++ [c]) = taken ++ [c]) :
    Leads source point r before (taken ++ c :: rest) := by
  have further : ((r.countLine c).skip c.utf8Size).current = r.current + c.utf8Size :=
    congrArg (· + c.utf8Size) (r.current_countLine c)
  have leads := leads_of step (here.countLine c).skip
    (by rw [counted]; exact line_countLine line c) fits
    (Or.inl (by rw [further]; exact Nat.lt_add_of_pos_right c.utf8Size_pos))
  rw [List.append_assoc, List.singleton_append] at leads
  exact leads

/-! ### The first character -/

theorem leads_opened (here : r.At source before [] (c :: rest))
    (line : r.line = (Position.start.after before).line) :
    Leads source .opened r before (c :: rest) := by
  have step : r.step source .opened = .ok (.first c, r.skip c.utf8Size) := by
    rw [Registers.step, here.ahead]
    rfl
  refine leads_of step here.skip ?_ .first (Or.inl ?_)
  · rw [Point.counted, List.append_nil]
    exact line
  · exact Nat.lt_add_of_pos_right c.utf8Size_pos

/-- Text without a line break is passed without counting. -/
theorem line_append {line : Nat} {text : List Char}
    (here : line = (Position.start.after before).line) (absent : '\n' ∉ text) :
    line = (Position.start.after (before ++ text)).line := by
  rw [Position.after_append, here]
  show _ = _ + text.count '\n'
  rw [List.count_eq_zero.2 absent]
  rfl

/-- Behind the first character, where it alone decides what the piece is or goes on as. -/
theorem leads_alone (step : r.step source (.first c) = .ok (point', r))
    (here : r.At source before [c] rest) (line : r.line = (Position.start.after before).line)
    (noNewline : c ≠ '\n') (fits : Fits (Position.start.after before) point' [c] rest)
    (counted : point'.counted [c] = [c]) (less : point'.rank < 7) :
    Leads source (.first c) r before (c :: rest) := by
  refine leads_to step here ?_ fits less
  rw [counted]
  exact line_append line (by simpa using noNewline.symm)

/-- Behind the first character, where it takes a second one that is not a line break. -/
theorem leads_pair {d : Char} (step : r.step source (.first c) = .ok (point', r.skip d.utf8Size))
    (here : r.At source before [c] (d :: rest)) (line : r.line = (Position.start.after before).line)
    (noNewline : '\n' ∉ [c, d]) (fits : Fits (Position.start.after before) point' [c, d] rest)
    (counted : point'.counted [c, d] = [c, d]) :
    Leads source (.first c) r before (c :: d :: rest) := by
  refine leads_of step here.skip ?_ fits (Or.inl (Nat.lt_add_of_pos_right d.utf8Size_pos))
  show r.line = _
  rw [List.singleton_append, counted]
  exact line_append line noNewline

theorem leads_blank (blank : isBlank c) (here : r.At source before [c] rest)
    (line : r.line = (Position.start.after before).line) :
    Leads source (.first c) r before (c :: rest) := by
  have step : r.step source (.first c) = .ok (.cut none, r.countLine c) := by
    rw [Registers.step, Registers.classify, CharClass.of_eq_blank_iff.2 blank]
    rfl
  have stands : (Piece.trivia [c]).StandsBefore rest := .blank blank
  refine leads_of step (here.countLine c) ?_ (.cut stands)
    (Or.inr ⟨(r.current_countLine c).symm, by simp [Point.rank]⟩)
  have there : r.line = (Position.start.after (before ++ [])).line := by
    rw [List.append_nil]
    exact line
  exact line_countLine there c

theorem leads_joining {alone joined : Mark} (found : CharClass.of c = .joining alone joined)
    (here : r.At source before [c] rest) (line : r.line = (Position.start.after before).line) :
    Leads source (.first c) r before (c :: rest) := by
  have noNewline : c ≠ '\n' := by
    rintro rfl
    cases found
  have spelled := CharClass.of_eq_joining found
  have grows := CharClass.grows_of_eq_joining found
  by_cases next : rest.head? = some '='
  · obtain ⟨rest, rfl⟩ := List.head?_eq_some_iff.1 next
    have step : r.step source (.first c) =
        .ok (.spelled (.mark joined) none, r.skip (Char.utf8Size '=')) := by
      simp [Registers.step, Registers.classify, found, here.advanceOver?_some]
    have fits :
        Fits (Position.start.after before) (.spelled (.mark joined) none) [c, '='] rest := by
      rw [← spelled.2]
      exact .spelled .mark fun d _ => (grows d).2
    exact leads_pair step here line (by simpa using noNewline.symm) fits rfl
  · have step : r.step source (.first c) = .ok (.spelled (.mark alone) none, r) := by
      simp [Registers.step, Registers.classify, found, here.advanceOver?_none next]
    have fits : Fits (Position.start.after before) (.spelled (.mark alone) none) [c] rest := by
      rw [← spelled.1]
      refine .spelled .mark fun d isNext => ?_
      rw [(grows d).1, beq_eq_false_iff_ne]
      rintro rfl
      exact next isNext
    exact leads_alone step here line noNewline fits rfl (by simp [Point.rank])

theorem leads_slash (here : r.At source before ['/'] rest)
    (line : r.line = (Position.start.after before).line) :
    Leads source (.first '/') r before ('/' :: rest) := by
  by_cases lines : rest.head? = some '/'
  · obtain ⟨rest, rfl⟩ := List.head?_eq_some_iff.1 lines
    have step : r.step source (.first '/') = .ok (.line, r.skip (Char.utf8Size '/')) := by
      simp [Registers.step, Registers.classify, CharClass.of, here.advanceOver?_some]
    exact leads_pair step here line (by decide) (.line List.not_mem_nil) rfl
  by_cases blocks : rest.head? = some '*'
  · obtain ⟨rest, rfl⟩ := List.head?_eq_some_iff.1 blocks
    have step : r.step source (.first '/') = .ok (.block, r.skip (Char.utf8Size '*')) := by
      simp [Registers.step, Registers.classify, CharClass.of, here.advanceOver?_none lines,
        here.advanceOver?_some]
    have goesOn : NoClosing ([] ++ rest.take 1) := noClosing_take_one rest
    exact leads_pair step here line (by decide) (.block goesOn) rfl
  · have step : r.step source (.first '/') = .ok (.spelled (.mark .slash) none, r) := by
      simp [Registers.step, Registers.classify, CharClass.of, here.advanceOver?_none lines,
        here.advanceOver?_none blocks]
    have stops : Stops Mark.slash.grows rest := by
      intro d isNext
      simp only [Mark.grows, Bool.or_eq_false_iff, beq_eq_false_iff_ne]
      constructor
      · rintro rfl
        exact lines isNext
      · rintro rfl
        exact blocks isNext
    have fits : Fits (Position.start.after before) (.spelled (.mark .slash) none) ['/'] rest :=
      Fits.spelled (l := .mark .slash) .mark stops
    exact leads_alone step here line (by decide) fits rfl (by simp [Point.rank])

theorem leads_first (here : r.At source before [c] rest)
    (line : r.line = (Position.start.after before).line) :
    Leads source (.first c) r before (c :: rest) := by
  by_cases isNewline : c = '\n'
  · exact leads_blank (by rw [isNewline]; rfl) here line
  have step : r.step source (.first c) = r.classify source c := rfl
  cases found : CharClass.of c with
  | blank => exact leads_blank (CharClass.of_eq_blank_iff.1 found) here line
  | lone mark =>
    have fits : Fits (Position.start.after before) (.spelled (.mark mark) none) [c] rest := by
      rw [← CharClass.of_eq_lone found]
      exact .spelled .mark fun d _ => CharClass.grows_of_eq_lone found d
    rw [Registers.classify, found] at step
    exact leads_alone step here line isNewline fits rfl (by simp [Point.rank])
  | joining alone joined => exact leads_joining found here line
  | slash =>
    obtain rfl := CharClass.of_eq_slash found
    exact leads_slash here line
  | quote =>
    obtain rfl := CharClass.of_eq_quote found
    rw [Registers.classify, found] at step
    exact leads_alone step here line isNewline (.string List.not_mem_nil) rfl
      (by simp [Point.rank])
  | digit =>
    have isDigits : IsDigits [c] :=
      ⟨List.cons_ne_nil _ _, List.forall_mem_singleton.2 (CharClass.of_eq_digit_iff.1 found)⟩
    rw [Registers.classify, found] at step
    exact leads_alone step here line isNewline (.whole isDigits) rfl (by simp [Point.rank])
  | letter =>
    rw [Registers.classify, found] at step
    exact leads_alone step here line isNewline
      (.word (CharClass.of_eq_letter_iff.1 found) fun _ mem => nomatch mem) rfl
      (by simp [Point.rank])
  | «foreign» =>
    have stands : (Piece.stray c).StandsBefore rest := .stray (CharClass.of_eq_foreign_iff.1 found)
    have made : (Piece.stray c).item? (Position.start.after before) =
        some (.error (.unexpectedChar c r.line r.span)) := by
      rw [Piece.item?, line, here.span_eq]
    rw [Registers.classify, found, ← made] at step
    exact leads_alone step here line isNewline (.cut stands) rfl (by simp [Point.rank])

/-! ### Comments -/

theorem leads_line {body : List Char} (noBreak : '\n' ∉ body)
    (here : r.At source before ('/' :: '/' :: body) rest)
    (line : r.line = (Position.start.after (before ++ '/' :: '/' :: body)).line) :
    Leads source .line r before ('/' :: '/' :: body ++ rest) := by
  by_cases stops : Stops Piece.isInLine rest
  · have stands : (Piece.trivia ('/' :: '/' :: body)).StandsBefore rest := .line noBreak stops
    have step : r.step source .line = .ok (.cut none, r) := by
      cases rest with
      | nil => simp [Registers.step, here.peek, here.isAtEnd]
      | cons c rest =>
        have isBreak : c = '\n' := by simpa [Piece.isInLine] using stops_cons.1 stops
        simp [Registers.step, here.peek, isBreak]
    exact leads_to step here line (.cut stands) (by simp [Point.rank])
  · cases rest with
    | nil => exact absurd (stops_nil _) stops
    | cons c rest =>
      have goesOn : c ≠ '\n' := by
        rintro rfl
        exact stops (stops_cons.2 (by decide))
      have step : r.step source .line = .ok (.line, (r.countLine c).skip c.utf8Size) := by
        rw [countLine_of_ne goesOn]
        simp [Registers.step, here.peek, here.isAtEnd, here.advance, goesOn]
      have longer : '\n' ∉ body ++ [c] := by
        simpa [noBreak] using goesOn.symm
      exact leads_on step here line (.line longer) rfl

theorem leads_block {body : List Char} (goesOn : NoClosing (body ++ rest.take 1))
    (here : r.At source before ('/' :: '*' :: body) rest)
    (line : r.line = (Position.start.after (before ++ '/' :: '*' :: body)).line) :
    Leads source .block r before ('/' :: '*' :: body ++ rest) := by
  cases rest with
  | nil =>
    have step : r.step source .block = .ok (.closing, r) := by
      simp [Registers.step, here.isAtEnd]
    rw [List.take_nil, List.append_nil] at goesOn
    exact leads_to step here line (.unclosed goesOn) (by simp [Point.rank])
  | cons c rest =>
    -- the loop looks at the second character only behind a star
    by_cases closes : c = '*' ∧ rest.head? = some '/'
    · obtain ⟨rfl, slash⟩ := closes
      obtain ⟨rest, rfl⟩ := List.head?_eq_some_iff.1 slash
      have step : r.step source .block = .ok (.closing, r) := by
        simp [Registers.step, here.isAtEnd, here.peek, here.peekSecond]
      have inside : NoClosing body := fun found =>
        goesOn (found.trans (List.prefix_append body _).isInfix)
      exact leads_to step here line (.closing inside) (by simp [Point.rank])
    · have step : r.step source .block = .ok (.block, (r.countLine c).skip c.utf8Size) := by
        by_cases isStar : c = '*'
        · have second : rest.head?.getD '\x00' ≠ '/' := by
            intro slash
            refine closes ⟨isStar, ?_⟩
            cases rest with
            | nil => exact absurd slash (by decide)
            | cons d rest => exact congrArg some slash
          subst isStar
          simp [Registers.step, here.isAtEnd, here.peek, here.peekSecond, second,
            (here.countLine '*').advance]
        · simp [Registers.step, here.isAtEnd, here.peek, isStar, (here.countLine c).advance]
      have longer := noClosing_concat goesOn closes
      rw [← List.singleton_append, ← List.append_assoc] at longer
      exact leads_on step here line (.block longer) rfl

/-- Behind the loop of a block comment; the closing is passed in one move. -/
theorem leads_closing (fits : Fits (Position.start.after before) .closing taken rest)
    (here : r.At source before taken rest)
    (line : r.line = (Position.start.after (before ++ taken)).line) :
    Leads source .closing r before (taken ++ rest) := by
  cases fits with
  | @unclosed body goesOn =>
    have step : r.step source .closing = .ok (.cut none, r) := by
      simp [Registers.step, here.isAtEnd]
    have stands : (Piece.trivia ('/' :: '*' :: body)).StandsBefore [] := .unclosed goesOn
    exact leads_to step here line (.cut stands) (by simp [Point.rank])
  | @closing body rest goesOn =>
    have step : r.step source .closing = .ok (.cut none, r.skip 2) := by
      simp [Registers.step, here.isAtEnd]
    have stands : (Piece.trivia ('/' :: '*' :: (body ++ ['*', '/']))).StandsBefore rest :=
      .block goesOn
    -- two bytes at once: the star and the slash take one each
    have there := here.skip.skip
    have taken : '/' :: '*' :: body ++ ['*'] ++ ['/'] = '/' :: '*' :: (body ++ ['*', '/']) := by
      simp
    rw [taken] at there
    have leads := leads_of step there ?_ (.cut stands)
      (Or.inl (Nat.lt_add_of_pos_right (by decide)))
    · simpa using leads
    · have passed : r.line =
          (Position.start.after (before ++ '/' :: '*' :: body ++ ['*', '/'])).line :=
        line_append line (by decide)
      rw [List.append_assoc] at passed
      exact passed

/-! ### Strings -/

theorem leads_string {body : List Char} (noQuote : '"' ∉ body)
    (here : r.At source before ('"' :: body) rest)
    (line : r.line = (Position.start.after (before ++ '"' :: body)).line) :
    Leads source .string r before ('"' :: body ++ rest) := by
  cases rest with
  | nil =>
    have stands : (Piece.openString body).StandsBefore [] := .openString noQuote
    have made : (Piece.openString body).item? (Position.start.after before) =
        some (.error (.unterminatedString r.line r.span)) := by
      rw [Piece.item?, line, here.span_eq, Position.after_append]
      rfl
    have step : r.step source .string =
        .ok (.cut ((Piece.openString body).item? (Position.start.after before)), r) := by
      simp [Registers.step, here.isAtEnd, here.peek, made]
    exact leads_to step here line (.cut stands) (by simp [Point.rank])
  | cons c rest =>
    by_cases isQuote : c = '"'
    · subst isQuote
      have step : r.step source .string =
          .ok (.closed, (r.countLine '"').skip (Char.utf8Size '"')) := by
        simp [Registers.step, here.isAtEnd, here.peek, here.advance, Registers.countLine]
      exact leads_on step here line (.closed noQuote) rfl
    · have step : r.step source .string = .ok (.string, (r.countLine c).skip c.utf8Size) := by
        simp [Registers.step, here.isAtEnd, here.peek, isQuote, (here.countLine c).advance]
      have longer : '"' ∉ body ++ [c] := by
        simpa [noQuote] using Ne.symm isQuote
      exact leads_on step here line (.string longer) rfl

/-- The text of a string is what stands between its quotes, a byte behind the one and a byte before
the end of the other. -/
theorem leads_closed {body : List Char} (noQuote : '"' ∉ body)
    (here : r.At source before ('"' :: (body ++ ['"'])) rest)
    (line : r.line = (Position.start.after (before ++ '"' :: (body ++ ['"']))).line) :
    Leads source .closed r before ('"' :: (body ++ ['"']) ++ rest) := by
  have inside : source.toList = (before ++ ['"']) ++ (body ++ ('"' :: rest)) := by
    rw [here.split]
    simp
  have sliced := slice_of_split inside
  have start : byteLength (before ++ ['"']) = r.start + 1 := by
    rw [here.start, byteLength_append]
    rfl
  have stop : byteLength (before ++ ['"'] ++ body) = r.current - 1 := by
    rw [here.current]
    have quote : Char.utf8Size '"' = 1 := by decide
    simp [quote]
    omega
  rw [start, stop] at sliced
  have step : r.step source .closed =
      .ok (.spelled .string (some (.text (.ofList body))), r) := by
    simp [Registers.step, sliced]
  have fits : Fits (Position.start.after before) (.spelled .string (some (.text (.ofList body))))
      ('"' :: (body ++ ['"'])) rest :=
    Fits.spelled (l := .quoted body) (.quoted noQuote) trivial
  exact leads_to step here line fits (by simp [Point.rank])

/-! ### Numbers and words -/

/-- The stand-in for a character that is not there belongs to no class that a loop goes by. -/
theorem exists_cons_of_peek {p : Char → Bool} (none : p '\x00' = false)
    (peeked : p (rest.head?.getD '\x00')) : ∃ c tail, rest = c :: tail ∧ p c := by
  cases rest with
  | nil => exact absurd peeked (Bool.eq_false_iff.1 none)
  | cons c tail => exact ⟨c, tail, rfl, peeked⟩

theorem stops_of_peek {p : Char → Bool} (peeked : ¬ p (rest.head?.getD '\x00')) :
    Stops p rest := by
  cases rest with
  | nil => exact stops_nil p
  | cons c tail => exact stops_cons.2 (Bool.eq_false_iff.2 peeked)

theorem newline_ne_of_isWordChar (inWord : isWordChar c) : c ≠ '\n' := by
  rintro rfl
  cases inWord

theorem newline_ne_of_isDigit (isDigit : c.isDigit) : c ≠ '\n' := by
  rintro rfl
  cases isDigit

theorem leads_word {letters : List Char} (first : isLetter c) (all : ∀ d ∈ letters, isWordChar d)
    (here : r.At source before (c :: letters) rest)
    (line : r.line = (Position.start.after (before ++ c :: letters)).line) :
    Leads source .word r before (c :: letters ++ rest) := by
  by_cases goesOn : isWordChar (rest.head?.getD '\x00')
  · obtain ⟨d, rest, rfl, inWord⟩ := exists_cons_of_peek (by decide) goesOn
    have step : r.step source .word = .ok (.word, (r.countLine d).skip d.utf8Size) := by
      rw [countLine_of_ne (newline_ne_of_isWordChar inWord)]
      simp [Registers.step, here.peek, inWord, here.advance]
    have longer : ∀ e ∈ letters ++ [d], isWordChar e := by
      simpa [or_imp, forall_and] using ⟨all, inWord⟩
    exact leads_on step here line (.word first longer) rfl
  · have step : r.step source .word =
        .ok (.spelled (.ofWord (.ofList (c :: letters))) none, r) := by
      simp [Registers.step, here.peek, goesOn, here.taken_eq]
    have fits : Fits (Position.start.after before)
        (.spelled (.ofWord (.ofList (c :: letters))) none) (c :: letters) rest :=
      Fits.spelled (l := .word (c :: letters)) (.word first all) (stops_of_peek goesOn)
    exact leads_to step here line fits (by simp [Point.rank])

/-- What a number looks for behind its digits. -/
theorem startsFraction_iff : StartsFraction rest ↔
    rest.head?.getD '\x00' = '.' ∧ (rest.tail.head?.getD '\x00').isDigit := by
  constructor
  · rintro ⟨d, rest, rfl, isDigit⟩
    exact ⟨rfl, isDigit⟩
  · rintro ⟨isPoint, isDigit⟩
    match rest with
    | [] => exact absurd isPoint (by decide)
    | [c] => cases isDigit
    | c :: d :: tail =>
      have isPoint : c = '.' := isPoint
      rw [isPoint]
      exact ⟨d, tail, rfl, isDigit⟩

theorem leads_whole {digits : List Char} (isDigits : IsDigits digits)
    (here : r.At source before digits rest)
    (line : r.line = (Position.start.after (before ++ digits)).line) :
    Leads source .whole r before (digits ++ rest) := by
  by_cases goesOn : (rest.head?.getD '\x00').isDigit
  · obtain ⟨d, rest, rfl, isDigit⟩ := exists_cons_of_peek (p := Char.isDigit) (by decide) goesOn
    have step : r.step source .whole = .ok (.whole, (r.countLine d).skip d.utf8Size) := by
      rw [countLine_of_ne (newline_ne_of_isDigit isDigit)]
      simp [Registers.step, here.peek, isDigit, here.advance]
    have longer : IsDigits (digits ++ [d]) := by
      refine ⟨List.append_ne_nil_of_left_ne_nil isDigits.1 _, ?_⟩
      simpa [or_imp, forall_and] using ⟨isDigits.2, isDigit⟩
    exact leads_on step here line (.whole longer) rfl
  have stops : Stops Char.isDigit rest := stops_of_peek goesOn
  by_cases fraction : StartsFraction rest
  · obtain ⟨d, rest, rfl, isDigit⟩ := fraction
    have step : r.step source .whole =
        .ok (.fraction, (r.countLine '.').skip (Char.utf8Size '.')) := by
      rw [countLine_of_ne (by decide)]
      simp [Registers.step, here.peek, here.peekSecond, isDigit, here.advance]
    -- the point has been read, and a digit is still ahead
    exact leads_on step here line
      (.fraction isDigits (fun _ mem => nomatch mem) fun _ => ⟨d, rfl, isDigit⟩) rfl
  · have step : r.step source .whole = .ok (.numeral, r) := by
      -- what a number looks for is not there, at the end of the source or before it
      have second : ¬ (rest.head?.getD '\x00' = '.' ∧ (rest.tail.head?.getD '\x00').isDigit) :=
        fun peeked => fraction (startsFraction_iff.2 peeked)
      by_cases isPoint : rest.head?.getD '\x00' = '.'
      · have noDigit : (rest.tail.head?.getD '\x00').isDigit = false := by
          simpa [isPoint] using second
        rw [Registers.step, here.peek, here.peekSecond, isPoint]
        simp only [ok_bind, map_ok, pure_eq_ok, noDigit, if_true]
        rfl
      · simp [Registers.step, here.peek, goesOn, isPoint]
    have formed : (Lexeme.number digits []).WellFormed := .whole isDigits
    have fits := Fits.numeral (p := Position.start.after before) formed ⟨stops, fun _ => fraction⟩
    rw [Lexeme.text, if_pos rfl, List.append_nil] at fits
    exact leads_to step here line fits (by simp [Point.rank])

theorem leads_fraction {whole digits : List Char} (isDigits : IsDigits whole)
    (all : ∀ d ∈ digits, d.isDigit) (first : digits = [] → ∃ d ∈ rest.head?, d.isDigit)
    (here : r.At source before (whole ++ '.' :: digits) rest)
    (line : r.line = (Position.start.after (before ++ (whole ++ '.' :: digits))).line) :
    Leads source .fraction r before (whole ++ '.' :: digits ++ rest) := by
  by_cases goesOn : (rest.head?.getD '\x00').isDigit
  · obtain ⟨d, rest, rfl, isDigit⟩ := exists_cons_of_peek (p := Char.isDigit) (by decide) goesOn
    have step : r.step source .fraction = .ok (.fraction, (r.countLine d).skip d.utf8Size) := by
      rw [countLine_of_ne (newline_ne_of_isDigit isDigit)]
      simp [Registers.step, here.peek, isDigit, here.advance]
    have longer : ∀ e ∈ digits ++ [d], e.isDigit := by
      simpa [or_imp, forall_and] using ⟨all, isDigit⟩
    have fits :
        Fits (Position.start.after before) .fraction (whole ++ '.' :: digits ++ [d]) rest := by
      rw [List.append_assoc, List.cons_append]
      exact .fraction isDigits longer fun none => absurd none (List.concat_ne_nil d digits)
    exact leads_on step here line fits rfl
  · have nonempty : digits ≠ [] := by
      intro none
      obtain ⟨d, isNext, isDigit⟩ := first none
      rw [Option.mem_def.1 isNext] at goesOn
      exact goesOn isDigit
    have step : r.step source .fraction = .ok (.numeral, r) := by
      simp [Registers.step, here.peek, goesOn]
    have formed : (Lexeme.number whole digits).WellFormed := .decimal isDigits ⟨nonempty, all⟩
    have fits := Fits.numeral (p := Position.start.after before) formed
      ⟨stops_of_peek goesOn, fun none => absurd none nonempty⟩
    rw [Lexeme.text, if_neg nonempty] at fits
    exact leads_to step here line fits (by simp [Point.rank])

/-- The value of a numeral is that of its parts. -/
theorem numeralValue_text {whole fraction : List Char}
    (formed : (Lexeme.number whole fraction).WellFormed) :
    numeralValue (Lexeme.number whole fraction).text = Lexeme.decimalValue whole fraction := by
  have parts : ∀ tail, (∀ c ∈ whole, c.isDigit) → Stops Char.isDigit tail →
      numeralValue (whole ++ tail) = Lexeme.decimalValue whole tail.tail := by
    intro tail all stops
    rw [numeralValue, takeWhile_append_of_stops all stops, dropWhile_append_of_stops all stops]
  cases formed with
  | whole isDigits => exact parts [] isDigits.2 (stops_nil _)
  | decimal isDigits isFraction =>
    rw [Lexeme.text, if_neg isFraction.1]
    exact parts ('.' :: fraction) isDigits.2 (stops_cons.2 rfl)

theorem leads_numeral {whole fraction : List Char}
    (formed : (Lexeme.number whole fraction).WellFormed)
    (stops : (Lexeme.number whole fraction).StopsBefore rest)
    (here : r.At source before (Lexeme.number whole fraction).text rest)
    (line : r.line =
      (Position.start.after (before ++ (Lexeme.number whole fraction).text)).line) :
    Leads source .numeral r before ((Lexeme.number whole fraction).text ++ rest) := by
  have step : r.step source .numeral = .ok (.spelled (Lexeme.number whole fraction).kind
      (Lexeme.number whole fraction).literal?, r) := by
    rw [Registers.step, here.taken_eq, Lexeme.literal?, ← numeralValue_text formed]
    rfl
  exact leads_to step here line (.spelled formed stops) (by simp [Point.rank])

/-! ### Tokens -/

theorem leads_spelled {l : Lexeme} (formed : l.WellFormed) (stops : l.StopsBefore rest)
    (here : r.At source before l.text rest)
    (line : r.line = (Position.start.after (before ++ l.text)).line) :
    Leads source (.spelled l.kind l.literal?) r before (l.text ++ rest) := by
  have step : r.step source (.spelled l.kind l.literal?) =
      .ok (.cut ((Piece.lexeme l).item? (Position.start.after before)), r) := by
    rw [Registers.step, Registers.token, here.taken_eq, here.startLine, here.span_eq]
    rfl
  exact leads_to step here line (.cut (.lexeme formed stops)) (by simp [Point.rank])

theorem Inside.start (inside : Inside source point r before taken) :
    r.start = byteLength before := by
  obtain ⟨_, _, _, here, _⟩ := inside
  exact here.start

/-- Every point of a piece but the last leads further. -/
theorem leads_of_inside {text : List Char} (inside : Inside source point r before text)
    (notYet : ∀ item, point ≠ .cut item) : Leads source point r before text := by
  obtain ⟨taken, rest, rfl, here, line, fits⟩ := inside
  cases fits with
  | opened => exact leads_opened here (by simpa [Point.counted] using line)
  | first => exact leads_first here (by simpa [Point.counted] using line)
  | line noBreak => exact leads_line noBreak here line
  | block goesOn => exact leads_block goesOn here line
  | unclosed goesOn => exact leads_closing (.unclosed goesOn) here line
  | closing goesOn => exact leads_closing (.closing goesOn) here line
  | string noQuote => exact leads_string noQuote here line
  | closed noQuote => exact leads_closed noQuote here line
  | whole isDigits => exact leads_whole isDigits here line
  | fraction isDigits all first => exact leads_fraction isDigits all first here line
  | numeral formed stops => exact leads_numeral formed stops here line
  | word first all => exact leads_word first all here line
  | spelled formed stops => exact leads_spelled formed stops here line
  | cut => exact absurd rfl (notYet _)

end Leads

end Machine

end LoxScan
