/-
# `LoxScan.Proofs.Newline` — a line break parts a source in two

A line break that stands neither in a string nor in a comment with an end of its
own takes the scan to the beginning again: the items before it are those of the
text before it, and the items behind it are those of the text behind it, moved
(`scan_append_newline`).  The text before may break off in the middle of a line
comment, of a number or of an operator; the line break ends all of these as the
end of a source does (`Piece.StandsBefore.append_newline`).

Where a text ends is told by the pass that finds the errors, which knows no
pieces: it ends in code or in a line comment (`EndsOutside`).  That is to say that
no piece of the text is open (`endsOutside_iff`).
-/
import LoxScan.Proofs.Faults
import LoxScan.Proofs.Restart

namespace LoxScan

/-! ## Where a text ends -/

/-- A pass is neither in a string nor in a comment that has an end of its own. -/
def Pass.IsOutside (pass : Pass) : Prop :=
  pass.mode = .code ∨ pass.mode = .line

instance (pass : Pass) : Decidable pass.IsOutside :=
  inferInstanceAs (Decidable (_ ∨ _))

/-- A text ends neither in a string nor in a comment that has an end of its own. -/
def EndsOutside (text : List Char) : Prop :=
  (Pass.run ⟨.code, [], []⟩ text).IsOutside

instance (text : List Char) : Decidable (EndsOutside text) :=
  inferInstanceAs (Decidable (Pass.IsOutside _))

namespace Pass

variable {before rest : List Char} {found : List ScanError}

/-- Where a line ends, a pass in a comment comes to an end outside as a pass in code does. -/
theorem isOutside_run_line (stops : Stops Piece.isInLine rest) :
    (run ⟨.line, before, found⟩ rest).IsOutside ↔ (run ⟨.code, before, found⟩ rest).IsOutside := by
  cases rest with
  | nil => exact ⟨fun _ => Or.inl rfl, fun _ => Or.inr rfl⟩
  | cons c rest =>
    obtain rfl : c = '\n' := by simpa [Piece.isInLine] using stops_cons.1 stops
    rw [run_newline]

/-- An open piece is not left. -/
theorem not_isOutside_run_open {piece : Piece} (isOpen : piece.IsOpen)
    (stands : piece.StandsBefore []) : ¬ (run ⟨.code, before, found⟩ piece.text).IsOutside := by
  cases isOpen with
  | comment goesOn =>
    rw [Piece.text, run_openComment goesOn]
    rintro (code | line)
    · cases code
    · cases line
  | string =>
    cases stands with
    | openString noQuote =>
      rw [Piece.text, run_openString noQuote]
      rintro (code | line)
      · cases code
      · cases line

/-- A pass over a row ends outside if no piece of the row is open. -/
theorem isOutside_run_iff {row : List Piece} {text : List Char} (isRow : Piece.IsRow row text)
    (before : List Char) (found : List ScanError) :
    (run ⟨.code, before, found⟩ text).IsOutside ↔ ∀ piece ∈ row, ¬ piece.IsOpen := by
  induction isRow generalizing before found with
  | nil => exact ⟨fun _ piece mem => absurd mem List.not_mem_nil, fun _ => Or.inl rfl⟩
  | @cons piece row rest stands _ ih =>
    rw [List.forall_mem_cons]
    by_cases isOpen : piece.IsOpen
    · obtain rfl := stands.rest_eq_nil isOpen
      rw [List.append_nil]
      constructor
      · intro outside
        exact absurd outside (not_isOutside_run_open isOpen stands)
      · rintro ⟨closed, -⟩
        exact absurd isOpen closed
    · obtain ⟨mode, reached, same⟩ := run_closed stands isOpen
      rw [same, and_iff_right isOpen, ← ih]
      rcases reached with rfl | ⟨rfl, stops⟩
      · rfl
      · exact isOutside_run_line stops

end Pass

/-- A text ends outside if each of its pieces has come to its end. -/
theorem endsOutside_iff (text : List Char) :
    EndsOutside text ↔ ∀ piece ∈ Piece.pieces text, ¬ piece.IsOpen :=
  Pass.isOutside_run_iff (Piece.pieces_eq_iff.1 rfl) [] []

/-! ## White space ends pieces -/

theorem startsFraction_of_append {c : Char} (noDigit : c.isDigit = false) {rest more : List Char}
    (nonempty : rest ≠ []) (fraction : StartsFraction (rest ++ c :: more)) :
    StartsFraction rest := by
  obtain ⟨d, tail, whole, isDigit⟩ := fraction
  obtain ⟨e, rest, rfl⟩ := List.exists_cons_of_ne_nil nonempty
  obtain ⟨rfl, later⟩ := List.cons.inj whole
  cases rest with
  | nil =>
    obtain ⟨rfl, -⟩ := List.cons.inj later
    exact absurd isDigit (Bool.eq_false_iff.1 noDigit)
  | cons e rest =>
    obtain ⟨rfl, -⟩ := List.cons.inj later
    exact ⟨e, rest, rfl, isDigit⟩

/-- A piece that has come to its end stands there as well if white space and more is appended.  Only
a comment to the end of the line, when nothing follows it, takes white space in that is no line
break. -/
theorem Piece.StandsBefore.append_blank {piece : Piece} {rest : List Char}
    (stands : piece.StandsBefore rest) (closed : ¬ piece.IsOpen) {c : Char} (blank : isBlank c)
    (ends : rest = [] → c ≠ '\n' → ∀ body, piece ≠ .trivia ('/' :: '/' :: body))
    (more : List Char) : piece.StandsBefore (rest ++ c :: more) := by
  by_cases nonempty : rest = []
  · subst nonempty
    cases stands with
    | blank blank => exact .blank blank
    | @line body _ noBreak =>
      refine .line noBreak (stops_cons.2 ?_)
      by_cases lineBreak : c = '\n'
      · rw [lineBreak]
        rfl
      · exact absurd rfl (ends rfl lineBreak body)
    | block goesOn => exact .block goesOn
    | lexeme formed => exact .lexeme formed (Lexeme.stopsBefore_blank _ blank more)
    | stray foreign => exact .stray foreign
    | unclosed goesOn => exact absurd (.comment goesOn) closed
    | openString => exact absurd .string closed
  · refine stands.congr nonempty ?_ ?_
    · intro p stops
      exact (stops_append nonempty _).2 stops
    · exact startsFraction_of_append (CharClass.isDigit_of_isBlank blank) nonempty

theorem Piece.StandsBefore.append_newline {piece : Piece} {rest : List Char}
    (stands : piece.StandsBefore rest) (closed : ¬ piece.IsOpen) (more : List Char) :
    piece.StandsBefore (rest ++ '\n' :: more) :=
  stands.append_blank closed (by decide) (fun _ different => absurd rfl different) more

/-- The pieces of a text that ends outside are followed by the line break, and by the pieces of what
is behind it. -/
theorem Piece.IsRow.append_newline {row : List Piece} {text : List Char} (isRow : IsRow row text)
    (closed : ∀ piece ∈ row, ¬ piece.IsOpen) (more : List Char) :
    IsRow (row ++ .trivia ['\n'] :: pieces more) (text ++ '\n' :: more) := by
  induction isRow with
  | nil =>
    have lineBreak : (Piece.trivia ['\n']).StandsBefore more := .blank (by decide)
    exact .cons lineBreak (pieces_eq_iff.1 rfl)
  | cons stands _ ih =>
    obtain ⟨here, others⟩ := List.forall_mem_cons.1 closed
    rw [List.cons_append, List.append_assoc]
    exact .cons (stands.append_newline here more) (ih others)

/-- The items of a text that ends outside, then those of what is behind the line break, moved. -/
theorem itemsOf_append_newline {text : List Char} (outside : EndsOutside text)
    (more : List Char) :
    itemsOf .start (Piece.pieces (text ++ '\n' :: more)) =
      itemsAlong .start (Piece.pieces text) ++ (itemsOf .start (Piece.pieces more)).map
        (Item.moved (byteLength text + 1) (1 + text.count '\n')) := by
  have isRow : Piece.IsRow (Piece.pieces text) text := Piece.pieces_eq_iff.1 rfl
  have longer := isRow.append_newline ((endsOutside_iff text).1 outside) more
  have moved := itemsOf_start_after (text ++ ['\n']) (Piece.pieces more)
  rw [byteLength_append, List.count_append, Nat.add_comm (text.count '\n')] at moved
  rw [Piece.pieces_eq_iff.2 longer, itemsOf_append, Piece.flatMap_text_pieces]
  refine congrArg _ (Eq.trans ?_ moved)
  rw [Position.after_append]
  rfl

/-- A text that ends neither in a string nor in a block comment, a line break, and another text have
the items of the one, but for the end, and then those of the other, moved. -/
theorem scan_append_newline (text more : String) (outside : EndsOutside text.toList) :
    ∃ items e, scan text = items ++ [.token e] ∧ e.kind = .eof ∧
      scan (text ++ "\n" ++ more) = items ++ (scan more).map
        (Item.moved (text.utf8ByteSize + 1) (1 + text.toList.count '\n')) := by
  have whole : (text ++ "\n" ++ more).toList = text.toList ++ '\n' :: more.toList := by
    simp
  refine ⟨_, _, scan_eq_append text, rfl, ?_⟩
  rw [scan, whole, itemsOf_append_newline outside, utf8ByteSize_eq]
  rfl

/-- A number with a point behind it and a line comment with a quote in it end at the line break. -/
theorem scan_append_newline_comment :
    EndsOutside "1. // \"".toList ∧
      ∃ items e, scan "1. // \"" = items ++ [.token e] ∧ e.kind = .eof ∧
        scan ("1. // \"" ++ "\n" ++ "5 @") = items ++ (scan "5 @").map
          (Item.moved ("1. // \"".utf8ByteSize + 1) (1 + "1. // \"".toList.count '\n')) :=
  ⟨by decide, scan_append_newline _ _ (by decide)⟩

end LoxScan
