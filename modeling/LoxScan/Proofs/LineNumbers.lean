/-
# `LoxScan.Proofs.LineNumbers` — items know their lines

The line of an item is one more than the number of line breaks in the text before
it.  An open string is the exception: it is reported where the source ends, at the
line of the token of the end.  In neither case does it matter what the line breaks
stand in, nor what else the text holds (`scan_lines`).

A place counts the line breaks of the text before it, so a line is wrong only if an
item takes it from the wrong place.  Which place it takes is a matter of its piece
(`Piece.item?`), and that the lines are in order comes from the same two bounds for
every piece: its item lies between the line it begins on and the one it ends on
(`Piece.line_mem`).
-/
import LoxScan.Proofs.Place

namespace LoxScan

/-! ## The lines that are due -/

/-- The line that an item is to have, in a source that has `before` before the item. -/
def Item.dueLine (before source : String) : Item → Nat
  | .error (.unterminatedString ..) => 1 + source.toList.count '\n'
  | _ => 1 + before.toList.count '\n'

/-- An item that a piece makes behind a text has the line that is due to it. -/
theorem Piece.line_eq_dueLine {piece : Piece} {before rest : List Char} {item : Item}
    (stands : piece.StandsBefore rest)
    (made : piece.item? (Position.start.after before) = some item) :
    item.line = item.dueLine (String.ofList before)
      (String.ofList (before ++ (piece.text ++ rest))) := by
  cases piece with
  | trivia text => cases made
  | lexeme l =>
    cases made
    show (Position.start.after before).line = 1 + (String.ofList before).toList.count '\n'
    rw [Position.start_after, String.toList_ofList]
  | stray c =>
    cases made
    show (Position.start.after before).line = 1 + (String.ofList before).toList.count '\n'
    rw [Position.start_after, String.toList_ofList]
  | openString body =>
    -- nothing follows, so where the string ends the source ends
    cases stands
    cases made
    show ((Position.start.after before).after (openString body).text).line =
      1 + (String.ofList (before ++ ((openString body).text ++ []))).toList.count '\n'
    rw [← Position.after_append, Position.start_after, String.toList_ofList, List.append_nil]

/-- Every item of a source begins behind a text of it, and has the line that is due to it there. -/
theorem exists_before_of_mem {source : String} {item : Item} (mem : item ∈ scan source) :
    ∃ before after, source = before ++ after ∧ before.utf8ByteSize = item.span.start ∧
      item.line = item.dueLine before source := by
  rw [scan_eq_append] at mem
  rcases List.mem_append.1 mem with inside | last
  · obtain ⟨before, piece, rest, split, stands, made⟩ := exists_piece_of_mem inside
    have whole : source = String.ofList (before ++ (piece.text ++ rest)) := by
      rw [← split, String.ofList_toList]
    refine ⟨String.ofList before, String.ofList (piece.text ++ rest), ?_, ?_, ?_⟩
    · rw [whole, String.ofList_append]
    · rw [utf8ByteSize_ofList, Piece.span_item made, Position.start_after]
      rfl
    · rw [whole]
      exact Piece.line_eq_dueLine stands made
  · obtain rfl := List.mem_singleton.1 last
    refine ⟨source, "", String.append_empty.symm, ?_, ?_⟩
    · rw [utf8ByteSize_eq, Position.start_after]
      rfl
    · rw [Position.start_after]
      rfl

/-! ## Lines in order -/

/-- An item lies between the line that its piece begins on and the one that it ends on. -/
theorem Piece.line_mem {piece : Piece} {p : Position} {item : Item}
    (made : piece.item? p = some item) :
    p.line ≤ item.line ∧ item.line ≤ (p.after piece.text).line := by
  have further : p.line ≤ (p.after piece.text).line := Nat.le_add_right _ _
  cases piece with
  | trivia text => cases made
  | lexeme l => cases made; exact ⟨Nat.le_refl _, further⟩
  | stray c => cases made; exact ⟨Nat.le_refl _, further⟩
  | openString body => cases made; exact ⟨further, Nat.le_refl _⟩

theorem le_line_of_mem_itemsOf {row : List Piece} {p : Position} {item : Item}
    (mem : item ∈ itemsOf p row) : p.line ≤ item.line := by
  induction row generalizing p with
  | nil =>
    obtain rfl := List.mem_singleton.1 mem
    exact Nat.le_refl _
  | cons piece row ih =>
    rcases List.mem_append.1 mem with here | later
    · exact (Piece.line_mem (Option.mem_toList.1 here)).1
    · exact Nat.le_trans (Nat.le_add_right _ _) (ih later)

theorem pairwise_line_itemsOf (row : List Piece) (p : Position) :
    (itemsOf p row).Pairwise fun one other => one.line ≤ other.line := by
  induction row generalizing p with
  | nil => exact List.pairwise_singleton _ _
  | cons piece row ih =>
    rw [itemsOf]
    cases made : piece.item? p with
    | none => exact ih _
    | some item =>
      refine List.pairwise_cons.2 ⟨?_, ih _⟩
      intro other mem
      exact Nat.le_trans (Piece.line_mem made).2 (le_line_of_mem_itemsOf mem)

/-- Every item of a source has the line that is due to it: one more than the number of line breaks
before its span, and for an open string one more than the number of all of them, which is the line
of the token of the end.  No item has a lower line than one before it. -/
theorem scan_lines (source : String) :
    (∀ item ∈ scan source, ∃ before after, source = before ++ after ∧
      before.utf8ByteSize = item.span.start ∧ item.line = item.dueLine before source) ∧
    (∃ items e, scan source = items ++ [.token e] ∧ e.kind = .eof ∧
      e.line = 1 + source.toList.count '\n' ∧
      ∀ line span, .error (.unterminatedString line span) ∈ items → line = e.line) ∧
    (scan source).Pairwise fun one other => one.line ≤ other.line := by
  have ends : (Token.eof (Position.start.after source.toList)).line =
      1 + source.toList.count '\n' := by
    rw [Position.start_after]
    rfl
  refine ⟨fun item mem => exists_before_of_mem mem,
    ⟨_, _, scan_eq_append source, rfl, ends, ?_⟩, pairwise_line_itemsOf _ _⟩
  intro line span mem
  have inScan : .error (.unterminatedString line span) ∈ scan source := by
    rw [scan_eq_append]
    exact List.mem_append_left _ mem
  obtain ⟨before, after, -, -, due⟩ := exists_before_of_mem inScan
  exact due.trans ends.symm

end LoxScan
