/-
# `LoxScan.Proofs.Place` — every item comes from a piece in its place

A scan of a whole text begins at `Position.start`, so the position at which it
meets a piece counts the text before that piece (`start_after`).  With that, an
item is a fact about a split of the text: so much before it, the piece that it
was made from, and a rest in front of which that piece stands
(`exists_piece_of_mem`).  The token of the end is the one item that is made from
no piece, and `scan_eq_append` sets it apart.

A stream hands out the same items as a scan (`drain_ofSource`).
-/
import LoxScan.Stream
import LoxScan.Proofs.Cut

namespace LoxScan

namespace Position

/-- Behind a text, a place counts its bytes, and its line breaks from one on. -/
theorem start_after (before : List Char) :
    start.after before = ⟨byteLength before, 1 + before.count '\n'⟩ := by
  simp [start, after]

@[simp] theorem offset_after (p : Position) (text : List Char) :
    (p.after text).offset = p.offset + byteLength text := rfl

@[simp] theorem offset_start : start.offset = 0 := rfl

@[simp] theorem line_start : start.line = 1 := rfl

end Position

/-! ## Bytes

A text split by characters is split at the bytes that the characters take. -/

section Bytes

variable {source : String} {before text after : List Char}

theorem ofList_of_split (split : source.toList = before ++ (text ++ after)) :
    source = String.ofList before ++ (String.ofList text ++ String.ofList after) := by
  rw [← String.ofList_append, ← String.ofList_append, ← split, String.ofList_toList]

theorem size_ofList (text : List Char) : (String.ofList text).toByteArray.size = byteLength text :=
  utf8ByteSize_ofList text

theorem utf8ByteSize_eq (source : String) : source.utf8ByteSize = byteLength source.toList := by
  rw [← utf8ByteSize_ofList, String.ofList_toList]

/-- The bytes of a stretch of a source are those of its characters. -/
theorem extract_of_split (split : source.toList = before ++ (text ++ after)) :
    source.toByteArray.extract (byteLength before) (byteLength before + byteLength text) =
      (String.ofList text).toByteArray := by
  have skipped := ByteArray.extract_append_size_add (a := (String.ofList before).toByteArray)
    (b := (String.ofList text ++ String.ofList after).toByteArray) (i := 0) (j := byteLength text)
  rw [Nat.add_zero, size_ofList, ← String.toByteArray_append, ← ofList_of_split split] at skipped
  rw [skipped, String.toByteArray_append, ← size_ofList text, ByteArray.extract_append_size_left,
    ByteArray.extract_zero_size]

/-- Where a stretch of a source begins, a character does not go on. -/
theorem isValid_of_split (split : source.toList = before ++ after) :
    String.Pos.Raw.IsValid source ⟨byteLength before⟩ := by
  refine String.Pos.Raw.isValid_iff_exists_append.2
    ⟨String.ofList before, String.ofList after, ?_, ?_⟩
  · rw [← String.ofList_append, ← split, String.ofList_toList]
  · rw [← utf8ByteSize_ofList]
    rfl

end Bytes

/-! ## The items of a row -/

/-- The items of pieces of which the first begins at `p`, without the token of the end. -/
def itemsAlong (p : Position) : List Piece → List Item
  | [] => []
  | piece :: rest => (piece.item? p).toList ++ itemsAlong (p.after piece.text) rest

/-- The items of two rows are those of the one, and those of the other from where it ends. -/
theorem itemsOf_append (p : Position) (row later : List Piece) :
    itemsOf p (row ++ later) =
      itemsAlong p row ++ itemsOf (p.after (row.flatMap Piece.text)) later := by
  induction row generalizing p with
  | nil => rfl
  | cons piece row ih =>
    rw [List.cons_append, itemsOf, itemsAlong, ih, List.flatMap_cons, Position.after_append,
      List.append_assoc]

theorem itemsOf_eq_append (p : Position) (row : List Piece) :
    itemsOf p row = itemsAlong p row ++ [.token (.eof (p.after (row.flatMap Piece.text)))] := by
  have alone := itemsOf_append p row []
  rw [List.append_nil] at alone
  exact alone

/-- A scan ends with the token of the end, at the place behind the whole text. -/
theorem scan_eq_append (source : String) :
    scan source = itemsAlong .start (Piece.pieces source.toList) ++
      [.token (.eof (Position.start.after source.toList))] := by
  rw [scan, itemsOf_eq_append, Piece.flatMap_text_pieces]

/-- What an item takes of a text is its piece. -/
theorem Piece.span_item {piece : Piece} {p : Position} {item : Item}
    (made : piece.item? p = some item) : item.span = p.spanOf piece.text := by
  cases piece with
  | trivia text => cases made
  | lexeme l => cases made; rfl
  | stray c => cases made; rfl
  | openString body => cases made; rfl

theorem exists_piece_of_mem_itemsAlong {row : List Piece} {text : List Char}
    (isRow : Piece.IsRow row text) {p : Position} {item : Item} (mem : item ∈ itemsAlong p row) :
    ∃ (before : List Char) (piece : Piece) (rest : List Char),
      text = before ++ (piece.text ++ rest) ∧ piece.StandsBefore rest ∧
      piece.item? (p.after before) = some item := by
  induction isRow generalizing p with
  | nil => cases mem
  | @cons first row rest stands _ ih =>
    rcases List.mem_append.1 mem with here | later
    · exact ⟨[], first, rest, rfl, stands, Option.mem_toList.1 here⟩
    · obtain ⟨before, piece, rest, rfl, stands, made⟩ := ih later
      refine ⟨first.text ++ before, piece, rest, ?_, stands, ?_⟩
      · rw [List.append_assoc]
      · rw [Position.after_append]
        exact made

/-- An item, the token of the end apart, is made from a piece at the place where the text before
that piece ends. -/
theorem exists_piece_of_mem {source : String} {item : Item}
    (mem : item ∈ itemsAlong .start (Piece.pieces source.toList)) :
    ∃ (before : List Char) (piece : Piece) (rest : List Char),
      source.toList = before ++ (piece.text ++ rest) ∧
      piece.StandsBefore rest ∧ piece.item? (Position.start.after before) = some item :=
  exists_piece_of_mem_itemsAlong (Piece.pieces_eq_iff.1 rfl) mem

/-! ## Streams -/

namespace Cursor

/-- A reader that goes on from the cursor meets the items of what is left. -/
theorem itemsOf_pieces (k : Cursor) :
    itemsOf k.position (Piece.pieces k.rest) =
      k.next.1 :: (k.next.2.map fun behind =>
        itemsOf behind.position (Piece.pieces behind.rest)).getD [] := by
  fun_induction next k with
  | case1 p => rw [Piece.pieces_nil]; rfl
  | case2 c rest p piece behind item made =>
    rw [Piece.pieces_cons, itemsOf, made]
    rfl
  | case3 c rest p piece behind made ih =>
    rw [Piece.pieces_cons, itemsOf, made]
    exact ih

theorem remaining_eq (k : Cursor) :
    k.remaining = itemsOf k.position (Piece.pieces k.rest) := by
  fun_induction remaining k with
  | case1 k item found =>
    rw [itemsOf_pieces, found]
    rfl
  | case2 k item behind found ih =>
    rw [itemsOf_pieces, found, ih]
    rfl

end Cursor

/-- All that a stream has to give is the scan of its text. -/
theorem Stream.drain_ofSource (source : String) :
    (Stream.ofSource source).drain.1 = scan source := by
  show (Cursor.ofSource source).remaining = scan source
  rw [Cursor.remaining_eq]
  rfl

end LoxScan
