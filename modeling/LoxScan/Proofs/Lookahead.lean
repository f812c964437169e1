/-
# `LoxScan.Proofs.Lookahead` — two more characters settle an item

An item of a text, with two characters of the text behind it, is an item of every
longer text that begins in the same way, and no other item comes to stand before
it (`scan_settled`).  The two are needed: `1` is a number in `1.` and only the
beginning of one in `1.5`.

The reason is in `Piece.standsBefore_append`.  Whether a piece stands before a rest
depends on one character of the rest, or on two where a fraction could follow; so
with two there, what is appended makes no difference, in either direction.  The
two texts are then cut alike until less than two characters are left of the
shorter one.  From there on the cuts may differ, but all items end too late to be
settled (`filter_settled_eq_nil`).
-/
import LoxScan.Proofs.Tiling

namespace LoxScan

/-! ## What is appended behind two characters -/

variable {rest : List Char}

theorem startsFraction_append (two : 2 ≤ rest.length) (more : List Char) :
    StartsFraction (rest ++ more) ↔ StartsFraction rest := by
  obtain ⟨c, d, tail, rfl⟩ : ∃ c d tail, rest = c :: d :: tail := by
    match rest, two with
    | c :: d :: tail, _ => exact ⟨c, d, tail, rfl⟩
  simp [StartsFraction]

/-- What follows the next two characters does not matter to a piece. -/
theorem Piece.standsBefore_append (piece : Piece) (two : 2 ≤ rest.length) (more : List Char) :
    piece.StandsBefore (rest ++ more) ↔ piece.StandsBefore rest := by
  have nonempty : rest ≠ [] := by
    rintro rfl
    exact absurd two (by decide)
  constructor
  · intro stands
    refine stands.congr (List.append_ne_nil_of_left_ne_nil nonempty more) ?_ ?_
    · intro p stops
      exact (stops_append nonempty more).1 stops
    · intro fraction
      exact (startsFraction_append two more).2 fraction
  · intro stands
    refine stands.congr nonempty ?_ ?_
    · intro p stops
      exact (stops_append nonempty more).2 stops
    · intro fraction
      exact (startsFraction_append two more).1 fraction

/-! ## Settled items -/

/-- An item ends in a text where at least two characters of it follow. -/
def Settled (text : List Char) (item : Item) : Prop :=
  ∃ done left, text = done ++ left ∧ byteLength done = item.span.stop ∧ 2 ≤ left.length

instance (text : List Char) (item : Item) : Decidable (Settled text item) :=
  decidable_of_iff (∃ n, n < text.length - 1 ∧ byteLength (text.take n) = item.span.stop) <| by
    constructor
    · rintro ⟨n, short, stop⟩
      refine ⟨text.take n, text.drop n, (List.take_append_drop n text).symm, stop, ?_⟩
      rw [List.length_drop]
      omega
    · rintro ⟨done, left, rfl, stop, two⟩
      refine ⟨done.length, ?_, ?_⟩
      · rw [List.length_append]
        omega
      · rw [List.take_left, stop]

theorem Settled.stop_lt {text : List Char} {item : Item} (settled : Settled text item) :
    item.span.stop < byteLength text := by
  obtain ⟨done, left, rfl, stop, two⟩ := settled
  have nonempty : left ≠ [] := by
    rintro rfl
    exact absurd two (by decide)
  have pos := byteLength_pos nonempty
  rw [← stop, byteLength_append]
  omega

/-- Of two beginnings of a text, the one of fewer bytes is a beginning of the other. -/
theorem exists_between {one other left right : List Char} (same : one ++ left = other ++ right)
    (le : byteLength one ≤ byteLength other) : ∃ between, other = one ++ between := by
  rcases List.append_eq_append_iff.1 same with ⟨between, rfl, -⟩ | ⟨between, rfl, -⟩
  · exact ⟨between, rfl⟩
  · refine ⟨[], ?_⟩
    have none : between = [] := by
      by_contra nonempty
      have pos := byteLength_pos nonempty
      rw [byteLength_append] at le
      omega
    rw [none, List.append_nil, List.append_nil]

theorem start_le_stop_of_mem_itemsOf {row : List Piece} {p : Position} {item : Item}
    (mem : item ∈ itemsOf p row) : item.span.start ≤ item.span.stop := by
  induction row generalizing p with
  | nil =>
    obtain rfl := List.mem_singleton.1 mem
    exact Nat.le_refl _
  | cons piece row ih =>
    rcases List.mem_append.1 mem with here | later
    · rw [Piece.span_item (Option.mem_toList.1 here)]
      exact Nat.le_add_right _ _
    · exact ih later

/-- No item of a row ends before its first piece does. -/
theorem le_stop_of_mem_itemsOf {piece : Piece} {row : List Piece} {p : Position} {item : Item}
    (mem : item ∈ itemsOf p (piece :: row)) : (p.after piece.text).offset ≤ item.span.stop := by
  rcases List.mem_append.1 mem with here | later
  · rw [Piece.span_item (Option.mem_toList.1 here)]
    exact Nat.le_refl _
  · exact Nat.le_trans (le_start_of_mem_itemsOf later) (start_le_stop_of_mem_itemsOf later)

/-! ## Two texts, cut side by side -/

section SideBySide

variable {text : List Char}

/-- An item that is settled in `text` and does not end before a first piece does shows that this
piece leaves two characters of `text`, whatever is appended. -/
theorem Settled.exists_left {before : List Char} {item : Item}
    (settled : Settled (before ++ text) item) {piece : Piece} {rest more : List Char}
    (whole : piece.text ++ rest = text ++ more)
    (late : byteLength (before ++ piece.text) ≤ item.span.stop) :
    ∃ left, text = piece.text ++ left ∧ rest = left ++ more ∧ 2 ≤ left.length := by
  obtain ⟨done, left, split, stop, two⟩ := settled
  rw [← stop] at late
  have same : (before ++ piece.text) ++ rest = done ++ (left ++ more) := by
    rw [List.append_assoc, whole, ← List.append_assoc, split, List.append_assoc]
  obtain ⟨between, rfl⟩ := exists_between same late
  have textSplit : text = piece.text ++ (between ++ left) := by
    simpa [List.append_assoc] using split
  refine ⟨between ++ left, textSplit, ?_, ?_⟩
  · rw [textSplit, List.append_assoc] at whole
    exact List.append_cancel_left whole
  · rw [List.length_append]
    omega

/-- Where no piece of a text leaves two characters of it, no item is settled, whatever is
appended. -/
theorem filter_settled_eq_nil (before : List Char)
    (short : ∀ (piece : Piece) (left : List Char), piece.StandsBefore left →
      text = piece.text ++ left → ¬ 2 ≤ left.length) (more : List Char) :
    (itemsOf (Position.start.after before) (Piece.pieces (text ++ more))).filter
      (fun item => Settled (before ++ text) item) = [] := by
  refine List.filter_eq_nil_iff.2 ?_
  intro item mem
  rw [decide_eq_true_eq]
  intro settled
  cases whole : text ++ more with
  | nil =>
    rw [whole, Piece.pieces_nil] at mem
    obtain rfl := List.mem_singleton.1 mem
    have stop := settled.stop_lt
    rw [(List.append_eq_nil_iff.1 whole).1, List.append_nil] at stop
    simp [Item.span, Token.eof, Position.spanOf] at stop
  | cons c others =>
    rw [whole, Piece.pieces_cons] at mem
    have late := le_stop_of_mem_itemsOf mem
    rw [← Position.after_append, Position.start_after] at late
    obtain ⟨left, split, rest, two⟩ := settled.exists_left
      ((Piece.text_cut c others).trans whole.symm) late
    have stands := Piece.standsBefore_cut c others
    rw [rest, Piece.standsBefore_append _ two] at stands
    exact short _ left stands split two

/-- From such a place on, what is appended makes no difference. -/
theorem filter_settled_append_of_short (before : List Char)
    (short : ∀ (piece : Piece) (left : List Char), piece.StandsBefore left →
      text = piece.text ++ left → ¬ 2 ≤ left.length) (more : List Char) :
    (itemsOf (Position.start.after before) (Piece.pieces (text ++ more))).filter
        (fun item => Settled (before ++ text) item) =
      (itemsOf (Position.start.after before) (Piece.pieces text)).filter
        (fun item => Settled (before ++ text) item) := by
  have alone := filter_settled_eq_nil before short []
  rw [List.append_nil text] at alone
  rw [filter_settled_eq_nil before short more, alone]

end SideBySide

/-- What is appended to a text makes no difference to the items that are settled in it. -/
theorem filter_settled_append (before text more : List Char) :
    (itemsOf (Position.start.after before) (Piece.pieces (text ++ more))).filter
        (fun item => Settled (before ++ text) item) =
      (itemsOf (Position.start.after before) (Piece.pieces text)).filter
        (fun item => Settled (before ++ text) item) := by
  fun_induction Piece.pieces text generalizing before with
  | case1 =>
    have short : ∀ (piece : Piece) (left : List Char), piece.StandsBefore left →
        [] = piece.text ++ left → ¬ 2 ≤ left.length := by
      intro piece left _ split
      rw [(List.append_eq_nil_iff.1 split.symm).2]
      decide
    have same := filter_settled_append_of_short before short more
    rw [Piece.pieces_nil] at same
    exact same
  | case2 c rest ih =>
    have stands := Piece.standsBefore_cut c rest
    have whole := Piece.text_cut c rest
    by_cases two : 2 ≤ (Piece.cut c rest).2.length
    · -- the first piece is the same, and the induction goes on behind it
      have here := (Piece.standsBefore_append _ two more).2 stands
      have further := ih (before ++ (Piece.cut c rest).1.text)
      rw [List.append_assoc, whole] at further
      rw [← whole, List.append_assoc, Piece.pieces_append here, itemsOf, itemsOf,
        List.filter_append, List.filter_append, ← Position.after_append, whole, further]
    · have short : ∀ (piece : Piece) (left : List Char), piece.StandsBefore left →
          c :: rest = piece.text ++ left → ¬ 2 ≤ left.length := by
        intro piece left stands split
        rw [Piece.cut_of_standsBefore stands split.symm] at two
        exact two
      have same := filter_settled_append_of_short before short more
      rw [Piece.pieces_cons] at same
      exact same

/-! ## Whole sources -/

/-- An open string takes all that is left of a source. -/
theorem stop_unterminatedString {source : String} {line : Nat} {span : Span}
    (mem : .error (.unterminatedString line span) ∈
      itemsAlong .start (Piece.pieces source.toList)) :
    span.stop = byteLength source.toList := by
  obtain ⟨before, piece, rest, split, stands, made⟩ := exists_piece_of_mem mem
  have same := Piece.span_item made
  rw [Position.start_after] at same
  cases piece with
  | openString body =>
    cases stands
    rw [split, List.append_nil, byteLength_append]
    exact congrArg Span.stop same
  | trivia => cases made
  | lexeme => cases made
  | stray => cases made

/-- The items of a text that are settled in it are those of every text that it begins, and neither
the token of the end nor an open string is among them. -/
theorem scan_settled (text more : String) :
    (scan (text ++ more)).filter (fun item => Settled text.toList item) =
        (scan text).filter (fun item => Settled text.toList item) ∧
      ∀ item ∈ scan text, Settled text.toList item →
        (∀ t, item = .token t → t.kind ≠ .eof) ∧
          ∀ line span, item ≠ .error (.unterminatedString line span) := by
  constructor
  · rw [scan, scan, String.toList_append]
    exact filter_settled_append [] text.toList more.toList
  · intro item mem settled
    have early := settled.stop_lt
    rw [scan_eq_append] at mem
    rcases List.mem_append.1 mem with inside | last
    · constructor
      · rintro t rfl
        exact (tiling_itemsAlong text).kind_ne_eof t inside
      · rintro line span rfl
        exact absurd (stop_unterminatedString inside) (Nat.ne_of_lt early)
    · obtain rfl := List.mem_singleton.1 last
      simp [Item.span, Token.eof, Position.spanOf] at early

/-- One character behind an item does not settle it. -/
example : (tokenize "1.").1.map Token.lexeme = ["1", ".", ""] ∧
    (tokenize "1.5").1.map Token.lexeme = ["1.5", ""] := by
  decide +kernel

end LoxScan
