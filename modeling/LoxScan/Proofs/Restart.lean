/-
# `LoxScan.Proofs.Restart` — a scan may be taken up where it stands

A scan comes to a cursor, cuts a piece and goes on behind it.  What it finds from
there on is what a scan of the rest by itself finds: the same items, moved by the
bytes and the lines of the text before (`scan_restart`).  So nothing goes from
one item to the next but the place.

Two facts make it up.  Items do not know where they are: when the place of the
first piece is moved, all items of a row are moved with it and nothing else of
them changes (`itemsOf_moved`).  And a cursor parts the pieces of a source into
those that have been cut and those of the rest (`Reaches.split`).
-/
import LoxScan.Proofs.Tiling

namespace LoxScan

/-! ## Moving items -/

/-- The place that is some bytes and lines further on. -/
def Position.moved (bytes lines : Nat) (p : Position) : Position :=
  ⟨p.offset + bytes, p.line + lines⟩

/-- The stretch that begins and ends some bytes further on. -/
def Span.moved (bytes : Nat) (s : Span) : Span :=
  ⟨s.start + bytes, s.stop + bytes⟩

/-- The token some bytes and lines further on: its span and its line are moved, and nothing else. -/
def Token.moved (bytes lines : Nat) (t : Token) : Token :=
  ⟨t.kind, t.lexeme, t.literal, t.line + lines, t.span.moved bytes⟩

/-- The error some bytes and lines further on. -/
def ScanError.moved (bytes lines : Nat) : ScanError → ScanError
  | unexpectedChar c line span => unexpectedChar c (line + lines) (span.moved bytes)
  | unterminatedString line span => unterminatedString (line + lines) (span.moved bytes)

/-- The item some bytes and lines further on. -/
def Item.moved (bytes lines : Nat) : Item → Item
  | token t => token (t.moved bytes lines)
  | error e => error (e.moved bytes lines)

section Moved

variable {bytes lines : Nat}

theorem Position.after_moved (p : Position) (text : List Char) :
    (p.moved bytes lines).after text = (p.after text).moved bytes lines := by
  simp only [after, moved, Nat.add_right_comm]

theorem Position.spanOf_moved (p : Position) (text : List Char) :
    (p.moved bytes lines).spanOf text = (p.spanOf text).moved bytes := by
  rw [spanOf, after_moved]
  rfl

/-- Behind a text, a place is that of the beginning, moved. -/
theorem Position.start_after_eq_moved (text : List Char) :
    start.after text = start.moved (byteLength text) (text.count '\n') := rfl

/-- What a piece makes at another place is what it makes, moved there. -/
theorem Piece.item?_moved (piece : Piece) (p : Position) :
    piece.item? (p.moved bytes lines) = (piece.item? p).map (Item.moved bytes lines) := by
  cases piece with
  | trivia text => rfl
  | lexeme l =>
    simp only [item?, Token.ofLexeme, Position.spanOf_moved]
    rfl
  | stray c =>
    simp only [item?, Position.spanOf_moved]
    rfl
  | openString body =>
    simp only [item?, Position.spanOf_moved, Position.after_moved]
    rfl

theorem Token.eof_moved (p : Position) :
    eof (p.moved bytes lines) = (eof p).moved bytes lines := by
  rw [eof, Position.spanOf_moved]
  rfl

/-- The items of a row at another place are its items, moved there. -/
theorem itemsOf_moved (row : List Piece) (p : Position) :
    itemsOf (p.moved bytes lines) row = (itemsOf p row).map (Item.moved bytes lines) := by
  induction row generalizing p with
  | nil =>
    rw [itemsOf, Token.eof_moved]
    rfl
  | cons piece row ih =>
    rw [itemsOf, itemsOf, Piece.item?_moved, Position.after_moved, ih, List.map_append]
    cases piece.item? p <;> rfl

end Moved

/-- The items of a row behind a text are those of the row by itself, moved past that text. -/
theorem itemsOf_start_after (before : List Char) (row : List Piece) :
    itemsOf (Position.start.after before) row =
      (itemsOf .start row).map (Item.moved (byteLength before) (before.count '\n')) := by
  rw [Position.start_after_eq_moved, itemsOf_moved]

/-! ## Rows one behind the other -/

theorem Piece.text_ne_nil_of_mem {piece : Piece} {text : List Char} (mem : piece ∈ pieces text) :
    piece.text ≠ [] := by
  fun_induction pieces text with
  | case1 => cases mem
  | case2 c rest ih =>
    rcases List.mem_cons.1 mem with rfl | later
    · exact text_cut_ne_nil c rest
    · exact ih later

/-- An item of a row begins before the row ends. -/
theorem start_lt_of_mem_itemsAlong {row : List Piece} (nonempty : ∀ piece ∈ row, piece.text ≠ [])
    {p : Position} {item : Item} (mem : item ∈ itemsAlong p row) :
    item.span.start < (p.after (row.flatMap Piece.text)).offset := by
  induction row generalizing p with
  | nil => cases mem
  | cons piece row ih =>
    obtain ⟨here, others⟩ := List.forall_mem_cons.1 nonempty
    rw [List.flatMap_cons, Position.after_append]
    rcases List.mem_append.1 mem with first | later
    · have pos := byteLength_pos here
      rw [Piece.span_item (Option.mem_toList.1 first)]
      simp only [Position.spanOf, Position.offset_after]
      omega
    · exact ih others later

/-- The items of a row that begin behind a first part of it are those of the other part. -/
theorem filter_itemsOf_append {row : List Piece} (nonempty : ∀ piece ∈ row, piece.text ≠ [])
    (later : List Piece) (p : Position) :
    (itemsOf p (row ++ later)).filter
        (fun item => (p.after (row.flatMap Piece.text)).offset ≤ item.span.start) =
      itemsOf (p.after (row.flatMap Piece.text)) later := by
  rw [itemsOf_append, List.filter_append]
  have passed : (itemsAlong p row).filter
      (fun item => (p.after (row.flatMap Piece.text)).offset ≤ item.span.start) = [] := by
    refine List.filter_eq_nil_iff.2 ?_
    intro item mem
    rw [decide_eq_true_eq, Nat.not_le]
    exact start_lt_of_mem_itemsAlong nonempty mem
  have kept : (itemsOf (p.after (row.flatMap Piece.text)) later).filter
      (fun item => (p.after (row.flatMap Piece.text)).offset ≤ item.span.start) =
        itemsOf (p.after (row.flatMap Piece.text)) later := by
    refine List.filter_eq_self.2 ?_
    intro item mem
    exact decide_eq_true (le_start_of_mem_itemsOf mem)
  rw [passed, kept, List.nil_append]

/-! ## The cursors of a scan -/

/-- The cursors that a scan of a source comes to, at each of which it cuts a piece or finds that
nothing is left: the one before the first character, and the one behind every piece that is cut. -/
inductive Reaches (source : String) : Cursor → Prop
  | start : Reaches source (.ofSource source)
  | behind {c : Char} {rest : List Char} {p : Position} : Reaches source ⟨c :: rest, p⟩ →
      Reaches source ⟨(Piece.cut c rest).2, p.after (Piece.cut c rest).1.text⟩

namespace Reaches

variable {source : String}

/-- A cursor has pieces of the source behind it, and the pieces of its rest before it. -/
theorem split {k : Cursor} (reached : Reaches source k) :
    ∃ row, Piece.pieces source.toList = row ++ Piece.pieces k.rest ∧
      k.position = Position.start.after (row.flatMap Piece.text) := by
  induction reached with
  | start => exact ⟨[], rfl, rfl⟩
  | @behind c rest p _ ih =>
    obtain ⟨row, pieces, place⟩ := ih
    refine ⟨row ++ [(Piece.cut c rest).1], ?_, ?_⟩
    · rw [pieces, Piece.pieces_cons, List.append_assoc]
      rfl
    · rw [List.flatMap_append, Position.after_append, ← place, List.flatMap_singleton]

/-- The items of the rest begin and end where the scan comes to. -/
theorem of_mem {text : List Char} {p : Position} (reached : Reaches source ⟨text, p⟩) {item : Item}
    (mem : item ∈ itemsOf p (Piece.pieces text)) :
    (∃ k, Reaches source k ∧ k.position.offset = item.span.start) ∧
      ∃ k, Reaches source k ∧ k.position.offset = item.span.stop := by
  fun_induction Piece.pieces text generalizing p with
  | case1 =>
    obtain rfl := List.mem_singleton.1 mem
    exact ⟨⟨_, reached, rfl⟩, ⟨_, reached, rfl⟩⟩
  | case2 c rest ih =>
    rcases List.mem_append.1 mem with here | later
    · rw [Piece.span_item (Option.mem_toList.1 here)]
      exact ⟨⟨_, reached, rfl⟩, ⟨_, reached.behind, rfl⟩⟩
    · exact ih reached.behind later

/-- Reading an item leads from one of these cursors to another. -/
theorem next {k behind : Cursor} (reached : Reaches source k) (found : k.next.2 = some behind) :
    Reaches source behind := by
  fun_induction Cursor.next k with
  | case1 => cases found
  | case2 c rest p piece ahead item _ =>
    rw [← Option.some.inj found]
    exact reached.behind
  | case3 c rest p piece ahead _ ih => exact ih reached.behind found

end Reaches

/-- At every cursor that a scan comes to, a scan of the rest finds what is still to come, moved
past the text before.  A stream that reads an item is left at such a cursor, and the beginning and
the end of each item of the source are places of such cursors. -/
theorem scan_restart (source : String) :
    (∀ k, Reaches source k → ∃ before, source.toList = before ++ k.rest ∧
      k.position = ⟨byteLength before, 1 + before.count '\n'⟩ ∧
      (scan source).filter (fun item => byteLength before ≤ item.span.start) =
        (scan (String.ofList k.rest)).map
          (Item.moved (byteLength before) (before.count '\n'))) ∧
    (∀ k behind, Reaches source k → k.next.2 = some behind → Reaches source behind) ∧
    ∀ item ∈ scan source,
      (∃ k, Reaches source k ∧ k.position.offset = item.span.start) ∧
        ∃ k, Reaches source k ∧ k.position.offset = item.span.stop := by
  refine ⟨?_, fun k behind reached found => reached.next found,
    fun item mem => Reaches.start.of_mem mem⟩
  intro k reached
  obtain ⟨row, pieces, place⟩ := reached.split
  have whole : source.toList = row.flatMap Piece.text ++ k.rest := by
    have joined := Piece.flatMap_text_pieces source.toList
    rw [pieces, List.flatMap_append, Piece.flatMap_text_pieces] at joined
    exact joined.symm
  have nonempty : ∀ piece ∈ row, piece.text ≠ [] := by
    intro piece mem
    have inSource : piece ∈ Piece.pieces source.toList := by
      rw [pieces]
      exact List.mem_append_left _ mem
    exact Piece.text_ne_nil_of_mem inSource
  have later := filter_itemsOf_append nonempty (Piece.pieces k.rest) .start
  rw [← pieces, itemsOf_start_after, Position.start_after] at later
  refine ⟨row.flatMap Piece.text, whole, ?_, ?_⟩
  · rw [place, Position.start_after]
  · rw [scan, scan, String.toList_ofList]
    exact later

/-- Behind a comment of two lines, a scan goes on seven bytes and one line further down. -/
theorem scan_restart_behind_comment :
    Reaches "x /*\n*/ y" ⟨[' ', 'y'], ⟨7, 2⟩⟩ ∧
      (scan "x /*\n*/ y").filter (fun item => 7 ≤ item.span.start) =
        (scan (String.ofList [' ', 'y'])).map (Item.moved 7 1) := by
  have reached : Reaches "x /*\n*/ y" ⟨[' ', 'y'], ⟨7, 2⟩⟩ :=
    @Reaches.behind _ '/' ['*', '\n', '*', '/', ' ', 'y'] ⟨2, 1⟩
      (@Reaches.behind _ ' ' ['/', '*', '\n', '*', '/', ' ', 'y'] ⟨1, 1⟩
        (@Reaches.behind _ 'x' [' ', '/', '*', '\n', '*', '/', ' ', 'y'] ⟨0, 1⟩ .start))
  refine ⟨reached, ?_⟩
  obtain ⟨before, -, place, same⟩ := (scan_restart "x /*\n*/ y").1 _ reached
  obtain ⟨bytes, lines⟩ := Position.mk.inj place
  have count : before.count '\n' = 1 := by omega
  rw [← bytes, count] at same
  exact same

end LoxScan
