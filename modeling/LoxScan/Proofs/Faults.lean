/-
# `LoxScan.Proofs.Faults` — the errors of a source, found without its tokens

Which errors a source has does not depend on where its tokens begin and end.  A
pass over the characters finds them that knows only whether it is in code, in a
comment of either kind, or in a string (`Pass.run`), and it records the errors
that a scan reports, the same ones in the same order (`errors_eq_faults`).

The two do not keep step: the scan takes a whole piece where the pass takes one
character or two.  The simulation is by pieces.  At the beginning of a piece the
pass is in code, and reading the piece takes it to the beginning of the next one
with the error of that piece recorded (`recorded_run_piece`).  There is one
exception to it: behind a comment that goes to the end of the line the pass has
not left the comment yet.  It leaves it with the line break, which code passes
over as well, so that what is recorded in the end is the same.

How the pass comes out of a piece is said once for the pieces that have come to
their end (`run_closed`), and once for each of the two that have not
(`run_openComment`, `run_openString`).  Such an open piece is the last one.
-/
import LoxScan.Report
import LoxScan.Proofs.Place

namespace LoxScan

/-! ## The pass -/

/-- Where a pass is: in code, in a comment of either kind, or in a string that was opened at a byte
of the source. -/
inductive Mode where
  | code
  | line
  | block
  | string (opening : Nat)
deriving DecidableEq

/-- A pass on its way: its mode, the text that it has read, and the errors that it has found. -/
structure Pass where
  mode : Mode
  before : List Char
  found : List ScanError

namespace Pass

/-- The error of a character of code: that it is none. -/
def check (before : List Char) (c : Char) : List ScanError :=
  if isCodeChar c then []
  else [.unexpectedChar c (1 + before.count '\n')
    ⟨byteLength before, byteLength before + c.utf8Size⟩]

/-- Reads a text to its end, one character at a time but for what opens and closes comments. -/
def run : Pass → List Char → Pass
  | pass, [] => pass
  | ⟨.code, before, found⟩, '/' :: '/' :: rest => run ⟨.line, before ++ ['/', '/'], found⟩ rest
  | ⟨.code, before, found⟩, '/' :: '*' :: rest => run ⟨.block, before ++ ['/', '*'], found⟩ rest
  | ⟨.code, before, found⟩, '"' :: rest =>
    run ⟨.string (byteLength before), before ++ ['"'], found⟩ rest
  | ⟨.code, before, found⟩, c :: rest =>
    run ⟨.code, before ++ [c], found ++ check before c⟩ rest
  | ⟨.line, before, found⟩, '\n' :: rest => run ⟨.code, before ++ ['\n'], found⟩ rest
  | ⟨.line, before, found⟩, c :: rest => run ⟨.line, before ++ [c], found⟩ rest
  | ⟨.block, before, found⟩, '*' :: '/' :: rest => run ⟨.code, before ++ ['*', '/'], found⟩ rest
  | ⟨.block, before, found⟩, c :: rest => run ⟨.block, before ++ [c], found⟩ rest
  | ⟨.string _, before, found⟩, '"' :: rest => run ⟨.code, before ++ ['"'], found⟩ rest
  | ⟨.string opening, before, found⟩, c :: rest =>
    run ⟨.string opening, before ++ [c], found⟩ rest

/-- The errors of a pass that has come to the end of a source.  A string that is still open is one
more, at the line where the source ends. -/
def recorded (pass : Pass) : List ScanError :=
  match pass.mode with
  | .string opening =>
    pass.found ++ [.unterminatedString (1 + pass.before.count '\n')
      ⟨opening, byteLength pass.before⟩]
  | _ => pass.found

end Pass

/-- The errors of a source, by a pass over its characters. -/
def faults (source : List Char) : List ScanError :=
  (Pass.run ⟨.code, [], []⟩ source).recorded

/-! ## Runs within a mode -/

namespace Pass

variable {before body text rest : List Char} {found : List ScanError} {c : Char}

/-- Reads characters of which each leaves the mode and the findings as they are. -/
theorem run_stays {mode : Mode}
    (stays : ∀ c ∈ body, ∀ before rest : List Char,
      run ⟨mode, before, found⟩ (c :: rest) = run ⟨mode, before ++ [c], found⟩ rest) :
    run ⟨mode, before, found⟩ (body ++ rest) = run ⟨mode, before ++ body, found⟩ rest := by
  induction body generalizing before with
  | nil => rw [List.nil_append, List.append_nil]
  | cons c body ih =>
    obtain ⟨here, others⟩ := List.forall_mem_cons.1 stays
    rw [List.cons_append, here, ih others, List.append_assoc, List.singleton_append]

theorem run_code (noSlash : c ≠ '/') (noQuote : c ≠ '"') :
    run ⟨.code, before, found⟩ (c :: rest) =
      run ⟨.code, before ++ [c], found ++ check before c⟩ rest := by
  rw [run]
  · exact fun _ same _ => noSlash same
  · exact fun _ same _ => noSlash same
  · exact noQuote

theorem run_slash (stops : Stops Mark.slash.grows rest) :
    run ⟨.code, before, found⟩ ('/' :: rest) = run ⟨.code, before ++ ['/'], found⟩ rest := by
  have code : check before '/' = [] := rfl
  rw [run, code, List.append_nil]
  · rintro tail - rfl
    exact absurd (stops_cons.1 stops) (by decide)
  · rintro tail - rfl
    exact absurd (stops_cons.1 stops) (by decide)
  · decide

/-- Code that has no slash in it is read without a finding. -/
theorem run_plain (plain : ∀ c ∈ text, isCodeChar c ∧ c ≠ '/') :
    run ⟨.code, before, found⟩ (text ++ rest) = run ⟨.code, before ++ text, found⟩ rest := by
  refine run_stays ?_
  intro c mem before rest
  obtain ⟨isCode, noSlash⟩ := plain c mem
  have noQuote : c ≠ '"' := by
    rintro rfl
    exact absurd isCode (by decide)
  rw [run_code noSlash noQuote, check, if_pos isCode, List.append_nil]

/-! ## Comments and strings -/

theorem run_line (noBreak : '\n' ∉ body) :
    run ⟨.line, before, found⟩ (body ++ rest) = run ⟨.line, before ++ body, found⟩ rest := by
  refine run_stays ?_
  intro c mem before rest
  rw [run]
  rintro rfl
  exact noBreak mem

theorem run_block (goesOn : NoClosing body) :
    run ⟨.block, before, found⟩ (body ++ '*' :: '/' :: rest) =
      run ⟨.code, before ++ (body ++ ['*', '/']), found⟩ rest := by
  induction body generalizing before with
  | nil => rfl
  | cons c body ih =>
    obtain ⟨here, later⟩ := noClosing_cons.1 goesOn
    rw [List.cons_append, run, ih later, List.append_assoc, List.singleton_append,
      List.cons_append]
    rintro tail rfl next
    cases body with
    | nil => cases next
    | cons d body =>
      obtain ⟨rfl, -⟩ := List.cons.inj next
      exact here ⟨rfl, rfl⟩

theorem run_unclosed (goesOn : NoClosing body) :
    run ⟨.block, before, found⟩ body = ⟨.block, before ++ body, found⟩ := by
  induction body generalizing before with
  | nil => rw [run, List.append_nil]
  | cons c body ih =>
    obtain ⟨here, later⟩ := noClosing_cons.1 goesOn
    rw [run, ih later, List.append_assoc, List.singleton_append]
    rintro tail rfl rfl
    exact here ⟨rfl, rfl⟩

theorem run_string {opening : Nat} (noQuote : '"' ∉ body) :
    run ⟨.string opening, before, found⟩ (body ++ rest) =
      run ⟨.string opening, before ++ body, found⟩ rest := by
  refine run_stays ?_
  intro c mem before rest
  rw [run]
  rintro rfl
  exact noQuote mem

/-- A line break is read alike in a comment to the end of the line and in code. -/
theorem run_newline :
    run ⟨.line, before, found⟩ ('\n' :: rest) = run ⟨.code, before, found⟩ ('\n' :: rest) := by
  have code : check before '\n' = [] := rfl
  rw [run_code (by decide) (by decide), code, List.append_nil, run]

/-- Where a line ends, it makes no difference in the end whether the pass is in a comment or in
code. -/
theorem recorded_run_line (stops : Stops Piece.isInLine rest) :
    (run ⟨.line, before, found⟩ rest).recorded = (run ⟨.code, before, found⟩ rest).recorded := by
  cases rest with
  | nil => rfl
  | cons c rest =>
    obtain rfl : c = '\n' := by simpa [Piece.isInLine] using stops_cons.1 stops
    rw [run_newline]

end Pass

/-! ## Pieces -/

/-- A piece that only the end of the source ends: a comment or a string that is never closed. -/
inductive Piece.IsOpen : Piece → Prop
  | comment {body : List Char} : NoClosing body → IsOpen (.trivia ('/' :: '*' :: body))
  | string {body : List Char} : IsOpen (.openString body)

/-- Nothing follows an open piece. -/
theorem Piece.StandsBefore.rest_eq_nil {piece : Piece} {rest : List Char}
    (stands : piece.StandsBefore rest) (isOpen : piece.IsOpen) : rest = [] := by
  cases stands with
  | @block body _ _ =>
    cases isOpen with
    | comment goesOn => exact absurd (List.suffix_append body ['*', '/']).isInfix goesOn
  | unclosed => rfl
  | openString => rfl
  | blank => cases isOpen
  | line => cases isOpen
  | lexeme => cases isOpen
  | stray => cases isOpen

theorem plain_of_isWordChar {c : Char} (inWord : isWordChar c) : isCodeChar c ∧ c ≠ '/' := by
  refine ⟨by simp [isCodeChar, inWord], ?_⟩
  rintro rfl
  exact absurd inWord (by decide)

theorem IsDigits.plain {digits : List Char} (isDigits : IsDigits digits) :
    ∀ c ∈ digits, isCodeChar c ∧ c ≠ '/' := by
  intro c mem
  refine plain_of_isWordChar ?_
  simp [isWordChar, isDigits.2 c mem]

theorem Mark.all_plain (mark : Mark) (noSlash : mark ≠ .slash) :
    mark.spelling.toList.all (fun c => isCodeChar c && c != '/') = true := by
  cases mark with
  | slash => exact absurd rfl noSlash
  | _ => rfl

/-- A lexeme is written in code, unless it is a string; and without a slash, unless it is one. -/
theorem Lexeme.WellFormed.plain {l : Lexeme} (formed : l.WellFormed) (noSlash : l ≠ .mark .slash)
    (noString : ∀ body, l ≠ .quoted body) : ∀ c ∈ l.text, isCodeChar c ∧ c ≠ '/' := by
  cases formed with
  | @mark mark =>
    intro c mem
    have plain := mark.all_plain fun same => noSlash (same ▸ rfl)
    simpa using List.all_eq_true.1 plain c mem
  | quoted => exact absurd rfl (noString _)
  | @whole digits isDigits =>
    rw [text, if_pos rfl, List.append_nil]
    exact isDigits.plain
  | @decimal whole fraction isDigits isFraction =>
    rw [text, if_neg isFraction.1]
    intro c mem
    rcases List.mem_append.1 mem with inWhole | inFraction
    · exact isDigits.plain c inWhole
    · rcases List.mem_cons.1 inFraction with rfl | inFraction
      · decide
      · exact isFraction.plain c inFraction
  | @word c letters first all =>
    intro d mem
    rcases List.mem_cons.1 mem with rfl | later
    · exact plain_of_isWordChar (by simp [isWordChar, first])
    · exact plain_of_isWordChar (all d later)

theorem plain_of_isBlank {c : Char} (blank : isBlank c) : isCodeChar c ∧ c ≠ '/' := by
  refine ⟨by simp [isCodeChar, blank], ?_⟩
  rintro rfl
  exact absurd blank (by decide)

namespace Pass

theorem run_lexeme {l : Lexeme} {before rest : List Char} {found : List ScanError}
    (formed : l.WellFormed) (stops : l.StopsBefore rest) :
    run ⟨.code, before, found⟩ (l.text ++ rest) = run ⟨.code, before ++ l.text, found⟩ rest := by
  by_cases slash : l = .mark .slash
  · subst slash
    exact run_slash stops
  by_cases quoted : ∃ body, l = .quoted body
  · obtain ⟨body, rfl⟩ := quoted
    cases formed with
    | quoted noQuote =>
      have opened : Lexeme.text (.quoted body) ++ rest = '"' :: (body ++ '"' :: rest) := by
        simp [Lexeme.text]
      rw [opened, run, run_string noQuote, run]
      simp [Lexeme.text]
  · exact run_plain (formed.plain slash fun body same => quoted ⟨body, same⟩)

/-- Reading a closed piece leads from code to what follows the piece, with its error found: to code
again, or to the end of the line of a comment. -/
theorem run_closed {piece : Piece} {before rest : List Char} {found : List ScanError}
    (stands : piece.StandsBefore rest) (closed : ¬ piece.IsOpen) :
    ∃ mode, (mode = .code ∨ mode = .line ∧ Stops Piece.isInLine rest) ∧
      run ⟨.code, before, found⟩ (piece.text ++ rest) = run ⟨mode, before ++ piece.text,
        found ++ ((piece.item? (Position.start.after before)).bind Item.error?).toList⟩ rest := by
  cases stands with
  | @blank c _ blank =>
    have plain : ∀ d ∈ [c], isCodeChar d ∧ d ≠ '/' := by
      intro d mem
      obtain rfl := List.mem_singleton.1 mem
      exact plain_of_isBlank blank
    refine ⟨.code, Or.inl rfl, ?_⟩
    show run ⟨.code, before, found⟩ ([c] ++ rest) = run ⟨.code, before ++ [c], found ++ []⟩ rest
    rw [List.append_nil, run_plain plain]
  | @line body _ noBreak stops =>
    refine ⟨.line, Or.inr ⟨rfl, stops⟩, ?_⟩
    show run ⟨.code, before, found⟩ ('/' :: '/' :: (body ++ rest)) =
      run ⟨.line, before ++ ('/' :: '/' :: body), found ++ []⟩ rest
    rw [run, run_line noBreak, List.append_nil, List.append_assoc]
    rfl
  | @block body _ goesOn =>
    have opened : (Piece.trivia ('/' :: '*' :: (body ++ ['*', '/']))).text ++ rest =
        '/' :: '*' :: (body ++ '*' :: '/' :: rest) := by
      simp [Piece.text]
    refine ⟨.code, Or.inl rfl, ?_⟩
    show _ = run ⟨.code, before ++ ('/' :: '*' :: (body ++ ['*', '/'])), found ++ []⟩ rest
    rw [opened, run, run_block goesOn, List.append_nil, List.append_assoc]
    rfl
  | @lexeme l _ formed stops =>
    refine ⟨.code, Or.inl rfl, ?_⟩
    show run ⟨.code, before, found⟩ (l.text ++ rest) =
      run ⟨.code, before ++ l.text, found ++ []⟩ rest
    rw [List.append_nil, run_lexeme formed stops]
  | @stray c _ foreign =>
    have noSlash : c ≠ '/' := by
      rintro rfl
      exact absurd foreign (by decide)
    have finding : check before c =
        [.unexpectedChar c (Position.start.after before).line
          ((Position.start.after before).spanOf [c])] := by
      simp [check, foreign.1, Position.start_after, Position.spanOf]
    refine ⟨.code, Or.inl rfl, ?_⟩
    show run ⟨.code, before, found⟩ (c :: rest) = run ⟨.code, before ++ [c], found ++ _⟩ rest
    rw [run_code noSlash foreign.2, finding]
    rfl
  | unclosed goesOn => exact absurd (.comment goesOn) closed
  | openString => exact absurd .string closed

theorem run_openComment {body before : List Char} {found : List ScanError}
    (goesOn : NoClosing body) :
    run ⟨.code, before, found⟩ ('/' :: '*' :: body) =
      ⟨.block, before ++ '/' :: '*' :: body, found⟩ := by
  rw [run, run_unclosed goesOn, List.append_assoc]
  rfl

theorem run_openString {body before : List Char} {found : List ScanError}
    (noQuote : '"' ∉ body) :
    run ⟨.code, before, found⟩ ('"' :: body) =
      ⟨.string (byteLength before), before ++ '"' :: body, found⟩ := by
  have toEnd : run ⟨.string (byteLength before), before ++ ['"'], found⟩ (body ++ []) =
      run ⟨.string (byteLength before), before ++ ['"'] ++ body, found⟩ [] :=
    run_string noQuote
  rw [List.append_nil, run, List.append_assoc] at toEnd
  rw [run, toEnd]
  rfl

/-- Reading a piece in code leads to what follows it, in code, with the error of the piece found. -/
theorem recorded_run_piece {piece : Piece} {before rest : List Char} {found : List ScanError}
    (stands : piece.StandsBefore rest) :
    (run ⟨.code, before, found⟩ (piece.text ++ rest)).recorded =
      (run ⟨.code, before ++ piece.text,
        found ++ ((piece.item? (Position.start.after before)).bind Item.error?).toList⟩
          rest).recorded := by
  by_cases isOpen : piece.IsOpen
  · obtain rfl := stands.rest_eq_nil isOpen
    rw [List.append_nil]
    cases isOpen with
    | comment goesOn =>
      show (run ⟨.code, before, found⟩ ('/' :: '*' :: _)).recorded = found ++ []
      rw [run_openComment goesOn, List.append_nil]
      rfl
    | @string body =>
      cases stands with
      | openString noQuote =>
        show (run ⟨.code, before, found⟩ ('"' :: body)).recorded = found ++ _
        rw [run_openString noQuote]
        simp [recorded, Position.after, Position.spanOf, Piece.text, Piece.item?, Item.error?,
          Nat.add_assoc]
  · obtain ⟨mode, reached, same⟩ := run_closed stands isOpen
    rw [same]
    rcases reached with rfl | ⟨rfl, stops⟩
    · rfl
    · exact recorded_run_line stops

end Pass

/-! ## Whole sources -/

theorem recorded_run_row {row : List Piece} {text : List Char} (isRow : Piece.IsRow row text)
    (before : List Char) (found : List ScanError) :
    (Pass.run ⟨.code, before, found⟩ text).recorded =
      found ++ (itemsOf (Position.start.after before) row).filterMap Item.error? := by
  induction isRow generalizing before found with
  | nil => exact (List.append_nil found).symm
  | @cons piece row rest stands _ ih =>
    rw [Pass.recorded_run_piece stands, ih, itemsOf, Position.after_append, List.filterMap_append,
      ← List.append_assoc]
    congr 2
    cases piece.item? (Position.start.after before) with
    | none => rfl
    | some item => cases item <;> rfl

/-- The errors of a scan are those that the pass finds, and a report of the source says no more and
no less. -/
theorem errors_eq_faults (source : String) (file : Option String) :
    (tokenize source).2 = faults source.toList ∧
      (Report.ofSource file source).diagnostics =
        (faults source.toList).map (fun e => ⟨e.line, e.message, file⟩) ∧
      ((Report.ofSource file source).hadError ↔ faults source.toList ≠ []) ∧
      (Report.ofSource file source).status.code =
        if faults source.toList = [] then 0 else 65 := by
  have same : (tokenize source).2 = faults source.toList :=
    (recorded_run_row (Piece.pieces_eq_iff.1 rfl) [] []).symm
  have told : (Report.ofSource file source).diagnostics =
      (faults source.toList).map (.ofError file) := by
    rw [← same]
    rfl
  have failed : (Report.ofSource file source).hadError ↔ faults source.toList ≠ [] := by
    rw [Report.hadError, told]
    simp
  refine ⟨same, told, failed, ?_⟩
  by_cases none : faults source.toList = []
  · rw [if_pos none, Report.status, if_neg fun h => failed.1 h none]
    rfl
  · rw [if_neg none, Report.status, if_pos (failed.2 none)]
    rfl

/-- A comment hides a character that is no code, and a string is open at the line where it ends. -/
example : faults ['é', '/', '/', '#', '\n', '"', '\n', '#'] =
    [.unexpectedChar 'é' 1 ⟨0, 2⟩, .unterminatedString 3 ⟨6, 9⟩] := by
  decide

end LoxScan
