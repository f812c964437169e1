/-
# `LoxScan.Proofs.Blanking` — what is no token may as well be white space

Write spaces over a source, one for each byte, wherever it holds no token and no
open string, and keep only the line breaks there.  White space, comments and foreign
characters are gone then, and nothing else changes: a scan of the blanked source
finds the same items in the same places, those for the foreign characters left out
(`scan_blanked`, `tokenize_blanked`).

The blanked source is given by the spans of the items alone (`blanked`), so the
first step is to see it as a row of pieces (`isRow_overwrite`): a piece that is kept
stands as it is, and any other one falls into blanks.  A kept piece goes no further
than it did, for two reasons.  No blank carries a lexeme on.  And what a lexeme looks
at in the text behind it is there before if it is there now, for writing spaces makes
no digit and no point (`Lexeme.StopsBefore.overwrite`).
-/
import LoxScan.Proofs.Tiling

namespace LoxScan

/-! ## The blanked source -/

/-- What is written over a character: a line break stays, and for any other character there is one
space for each byte of it. -/
def blank (c : Char) : List Char :=
  if c = '\n' then ['\n'] else List.replicate c.utf8Size ' '

/-- A text that begins at a byte of a source, written over wherever a byte is not kept. -/
def overwrite (kept : Nat → Bool) (offset : Nat) : List Char → List Char
  | [] => []
  | c :: rest =>
    (if kept offset then [c] else blank c) ++ overwrite kept (offset + c.utf8Size) rest

/-- Whether an error is that of an open string. -/
def ScanError.isOpenString : ScanError → Bool
  | unterminatedString .. => true
  | unexpectedChar .. => false

/-- Whether the text of an item is kept: that of tokens and of open strings is. -/
def Item.isKept : Item → Bool
  | token _ => true
  | error e => e.isOpenString

/-- Whether a byte is in the span of an item whose text is kept. -/
def covers (items : List Item) (offset : Nat) : Bool :=
  items.any fun item => item.isKept && (item.span.start ≤ offset && offset < item.span.stop)

/-- A source with spaces written over all that is neither a token, nor an open string, nor a line
break. -/
def blanked (source : String) : String :=
  .ofList (overwrite (covers (scan source)) 0 source.toList)

/-! ## Blanks -/

theorem isBlank_of_mem_blank {c d : Char} (mem : d ∈ blank c) : isBlank d := by
  unfold blank at mem
  split at mem
  · obtain rfl := List.mem_singleton.1 mem
    rfl
  · obtain rfl := (List.mem_replicate.1 mem).2
    rfl

theorem blank_ne_nil (c : Char) : blank c ≠ [] := by
  unfold blank
  split
  · exact List.cons_ne_nil _ _
  · exact mt (List.replicate_eq_nil_iff ' ').1 (Nat.ne_of_gt c.utf8Size_pos)

theorem byteLength_replicate_space (n : Nat) : byteLength (List.replicate n ' ') = n := by
  induction n with
  | zero => rfl
  | succ n ih =>
    rw [List.replicate_succ, byteLength_cons, ih]
    exact Nat.add_comm 1 n

/-- What is written over a character takes as many bytes and line breaks as the character does. -/
theorem Position.after_blank (p : Position) (c : Char) : p.after (blank c) = p.after [c] := by
  unfold blank
  split
  · next isBreak => rw [isBreak]
  · next noBreak =>
    have lines : [c].count '\n' = 0 := List.count_eq_zero.2 (by simpa using Ne.symm noBreak)
    have spaces : (List.replicate c.utf8Size ' ').count '\n' = 0 :=
      List.count_eq_zero.2 fun mem => absurd (List.mem_replicate.1 mem).2 (by decide)
    rw [after, after, lines, spaces, byteLength_replicate_space]
    rfl

theorem Position.after_flatMap_blank (p : Position) (text : List Char) :
    p.after (text.flatMap blank) = p.after text := by
  induction text generalizing p with
  | nil => rfl
  | cons c text ih =>
    rw [List.flatMap_cons, after_append, after_blank, ih, ← after_append, List.singleton_append]

/-! ## Overwriting -/

section Overwrite

variable {kept kept' : Nat → Bool} {offset : Nat} {text rest : List Char}

theorem overwrite_append (kept : Nat → Bool) (offset : Nat) (text rest : List Char) :
    overwrite kept offset (text ++ rest) =
      overwrite kept offset text ++ overwrite kept (offset + byteLength text) rest := by
  induction text generalizing offset with
  | nil => rfl
  | cons c text ih =>
    rw [List.cons_append, overwrite, overwrite, ih, List.append_assoc, byteLength_cons,
      Nat.add_assoc]

theorem overwrite_congr
    (same : ∀ o, offset ≤ o → o < offset + byteLength text → kept o = kept' o) :
    overwrite kept offset text = overwrite kept' offset text := by
  induction text generalizing offset with
  | nil => rfl
  | cons c text ih =>
    have pos := c.utf8Size_pos
    rw [byteLength_cons] at same
    have here := same offset (Nat.le_refl _) (by omega)
    have later : overwrite kept (offset + c.utf8Size) text =
        overwrite kept' (offset + c.utf8Size) text :=
      ih fun o low high => same o (by omega) (by omega)
    rw [overwrite, overwrite, here, later]

/-- Where all is kept nothing changes. -/
theorem overwrite_true (offset : Nat) (text : List Char) :
    overwrite (fun _ => true) offset text = text := by
  induction text generalizing offset with
  | nil => rfl
  | cons c text ih =>
    rw [overwrite, ih]
    rfl

/-- Where nothing is kept all is blank. -/
theorem overwrite_false (offset : Nat) (text : List Char) :
    overwrite (fun _ => false) offset text = text.flatMap blank := by
  induction text generalizing offset with
  | nil => rfl
  | cons c text ih =>
    rw [overwrite, ih, List.flatMap_cons]
    rfl

/-- A text that is written over begins with what it began with, or with a blank. -/
theorem overwrite_cases (kept : Nat → Bool) (offset : Nat) (c : Char) (rest : List Char) :
    overwrite kept offset (c :: rest) = c :: overwrite kept (offset + c.utf8Size) rest ∨
      ∃ d tail, overwrite kept offset (c :: rest) = d :: tail ∧ isBlank d := by
  rw [overwrite]
  split
  · exact Or.inl rfl
  · obtain ⟨d, tail, whole⟩ := List.exists_cons_of_ne_nil (blank_ne_nil c)
    refine Or.inr ⟨d, tail ++ overwrite kept (offset + c.utf8Size) rest, ?_, ?_⟩
    · rw [whole, List.cons_append]
    · exact isBlank_of_mem_blank (whole ▸ List.mem_cons_self)

/-- Overwriting begins no fraction. -/
theorem startsFraction_of_overwrite (fraction : StartsFraction (overwrite kept offset text)) :
    StartsFraction text := by
  obtain ⟨e, tail, whole, isDigit⟩ := fraction
  cases text with
  | nil => cases whole
  | cons c rest =>
    rcases overwrite_cases kept offset c rest with same | ⟨d, more, blanks, isBlank⟩
    · obtain ⟨rfl, later⟩ := List.cons.inj (same.symm.trans whole)
      cases rest with
      | nil => cases later
      | cons f rest =>
        rcases overwrite_cases kept (offset + Char.utf8Size '.') f rest with
          same | ⟨d, more, blanks, isBlank⟩
        · obtain ⟨rfl, -⟩ := List.cons.inj (same.symm.trans later)
          exact ⟨f, rest, rfl, isDigit⟩
        · obtain ⟨rfl, -⟩ := List.cons.inj (blanks.symm.trans later)
          exact absurd isDigit (Bool.eq_false_iff.1 (CharClass.isDigit_of_isBlank isBlank))
    · obtain ⟨rfl, -⟩ := List.cons.inj (blanks.symm.trans whole)
      exact absurd isBlank (by decide)

/-- What does not carry a lexeme on does not do so when it is written over. -/
theorem Lexeme.StopsBefore.overwrite {l : Lexeme} (stops : l.StopsBefore rest) :
    l.StopsBefore (overwrite kept offset rest) := by
  cases rest with
  | nil => exact stops
  | cons c rest =>
    rcases overwrite_cases kept offset c rest with same | ⟨d, tail, blanks, isBlank⟩
    · cases l with
      | mark m => rw [same]; exact stops_cons.2 (stops_cons.1 stops)
      | quoted body => trivial
      | number whole fraction =>
        refine ⟨?_, fun none goesOn => stops.2 none (startsFraction_of_overwrite goesOn)⟩
        rw [same]
        exact stops_cons.2 (stops_cons.1 stops.1)
      | word letters => rw [same]; exact stops_cons.2 (stops_cons.1 stops)
    · rw [blanks]
      exact l.stopsBefore_blank isBlank tail

end Overwrite

/-! ## Pieces of a blanked source -/

namespace Piece

/-- Whether a piece is kept. -/
def isKept : Piece → Bool
  | lexeme _ | openString _ => true
  | trivia _ | stray _ => false

/-- White space, each character a piece of its own. -/
def spaces (text : List Char) : List Piece :=
  text.map fun c => trivia [c]

/-- The pieces that a piece becomes. -/
def blanks (piece : Piece) : List Piece :=
  if piece.isKept then [piece] else spaces (piece.text.flatMap blank)

theorem flatMap_text_spaces (text : List Char) : (spaces text).flatMap Piece.text = text := by
  rw [spaces, List.flatMap_map]
  exact List.flatMap_singleton' text

theorem isRow_spaces {text rest : List Char} {row : List Piece} (blank : ∀ c ∈ text, isBlank c)
    (isRow : IsRow row rest) : IsRow (spaces text ++ row) (text ++ rest) := by
  induction text with
  | nil => exact isRow
  | cons c text ih =>
    obtain ⟨here, others⟩ := List.forall_mem_cons.1 blank
    have stands : (trivia [c]).StandsBefore (text ++ rest) := .blank here
    exact .cons stands (ih others)

/-- A piece that is kept stands before what follows it, written over. -/
theorem StandsBefore.overwrite {piece : Piece} {rest : List Char} (stands : piece.StandsBefore rest)
    (isKept : piece.isKept) (kept : Nat → Bool) (offset : Nat) :
    piece.StandsBefore (overwrite kept offset rest) := by
  cases stands with
  | lexeme formed stops => exact .lexeme formed stops.overwrite
  | openString noQuote => exact .openString noQuote
  | blank => cases isKept
  | line => cases isKept
  | block => cases isKept
  | unclosed => cases isKept
  | stray => cases isKept

end Piece

section Covers

variable {p : Position}

/-- The bytes that the item of a piece covers are those of the piece, if it is kept. -/
theorem covers_item (piece : Piece) (p : Position) (o : Nat) :
    covers (piece.item? p).toList o =
      (piece.isKept && (p.offset ≤ o && o < p.offset + byteLength piece.text)) := by
  cases piece with
  | trivia text => rfl
  | lexeme l => exact Bool.or_false _
  | stray c => rfl
  | openString body => exact Bool.or_false _

/-- Items cover nothing of what is before them. -/
theorem covers_itemsOf_of_lt {row : List Piece} {o : Nat} (before : o < p.offset) :
    covers (itemsOf p row) o = false := by
  refine List.any_eq_false.2 ?_
  intro item mem
  have start := le_start_of_mem_itemsOf mem
  have early : ¬ item.span.start ≤ o := Nat.not_le.2 (Nat.lt_of_lt_of_le before start)
  simp [early]

theorem covers_itemsOf_cons (piece : Piece) (row : List Piece) (p : Position) (o : Nat) :
    covers (itemsOf p (piece :: row)) o =
      (covers (piece.item? p).toList o || covers (itemsOf (p.after piece.text) row) o) :=
  List.any_append

/-- The text of a first piece, written over by the spans of all items, is kept or blank as the piece
is. -/
theorem overwrite_first (piece : Piece) (row : List Piece) (p : Position) :
    overwrite (covers (itemsOf p (piece :: row))) p.offset piece.text =
      piece.blanks.flatMap Piece.text := by
  have same : overwrite (covers (itemsOf p (piece :: row))) p.offset piece.text =
      overwrite (fun _ => piece.isKept) p.offset piece.text := by
    refine overwrite_congr ?_
    intro o low high
    have later : covers (itemsOf (p.after piece.text) row) o = false := covers_itemsOf_of_lt high
    rw [covers_itemsOf_cons, covers_item, later, decide_eq_true low, decide_eq_true high,
      Bool.and_true, Bool.and_true, Bool.or_false]
  rw [same, Piece.blanks]
  cases piece.isKept with
  | true =>
    rw [overwrite_true, if_pos rfl, List.flatMap_singleton]
  | false =>
    rw [overwrite_false, if_neg Bool.false_ne_true, Piece.flatMap_text_spaces]

/-- Behind a first piece, its item makes no difference. -/
theorem overwrite_later (piece : Piece) (row : List Piece) (p : Position) (rest : List Char) :
    overwrite (covers (itemsOf p (piece :: row))) (p.after piece.text).offset rest =
      overwrite (covers (itemsOf (p.after piece.text) row)) (p.after piece.text).offset rest := by
  refine overwrite_congr ?_
  intro o low _
  have late : ¬ o < p.offset + byteLength piece.text := Nat.not_lt.2 low
  rw [covers_itemsOf_cons, covers_item, decide_eq_false late, Bool.and_false, Bool.and_false,
    Bool.false_or]

/-- A row that is written over by the spans of its items is the row of what its pieces become. -/
theorem isRow_overwrite {row : List Piece} {text : List Char} (isRow : Piece.IsRow row text)
    (p : Position) :
    Piece.IsRow (row.flatMap Piece.blanks)
      (overwrite (covers (itemsOf p row)) p.offset text) := by
  induction isRow generalizing p with
  | nil => exact .nil
  | @cons piece row rest stands _ ih =>
    have later := ih (p.after piece.text)
    rw [← overwrite_later] at later
    rw [List.flatMap_cons, overwrite_append, overwrite_first, Piece.blanks]
    split
    · next isKept =>
      rw [List.flatMap_singleton]
      exact .cons (stands.overwrite isKept _ _) later
    · rw [Piece.flatMap_text_spaces]
      refine Piece.isRow_spaces ?_ later
      intro d mem
      obtain ⟨c, -, written⟩ := List.mem_flatMap.1 mem
      exact isBlank_of_mem_blank written

end Covers

/-! ## Items of a blanked source -/

theorem itemsOf_spaces (text : List Char) (row : List Piece) (p : Position) :
    itemsOf p (Piece.spaces text ++ row) = itemsOf (p.after text) row := by
  induction text generalizing p with
  | nil => rfl
  | cons c text ih =>
    have further := ih (p.after [c])
    rw [← Position.after_append, List.singleton_append] at further
    exact further

/-- The item of a piece is kept if the piece is. -/
theorem filter_isKept_item (piece : Piece) (p : Position) :
    (piece.item? p).toList.filter Item.isKept =
      if piece.isKept then (piece.item? p).toList else [] := by
  cases piece <;> rfl

theorem itemsOf_blanks (row : List Piece) (p : Position) :
    itemsOf p (row.flatMap Piece.blanks) = (itemsOf p row).filter Item.isKept := by
  induction row generalizing p with
  | nil => rfl
  | cons piece row ih =>
    rw [List.flatMap_cons, itemsOf, List.filter_append, filter_isKept_item, ← ih, Piece.blanks]
    split
    · rfl
    · rw [itemsOf_spaces, Position.after_flatMap_blank, List.nil_append]

/-- The items of a blanked source are those of the source but for the foreign characters. -/
theorem scan_blanked (source : String) :
    scan (blanked source) = (scan source).filter Item.isKept := by
  have isRow := isRow_overwrite (Piece.pieces_eq_iff.1 rfl : Piece.IsRow _ source.toList) .start
  rw [scan, blanked, String.toList_ofList]
  exact (congrArg (itemsOf .start) (Piece.pieces_eq_iff.2 isRow)).trans (itemsOf_blanks _ _)

theorem filterMap_token_filter (items : List Item) :
    (items.filter Item.isKept).filterMap Item.token? = items.filterMap Item.token? := by
  induction items with
  | nil => rfl
  | cons item items ih =>
    cases item with
    | token t => exact congrArg (t :: ·) ih
    | error e =>
      cases e with
      | unexpectedChar => exact ih
      | unterminatedString => exact ih

theorem filterMap_error_filter (items : List Item) :
    (items.filter Item.isKept).filterMap Item.error? =
      (items.filterMap Item.error?).filter ScanError.isOpenString := by
  induction items with
  | nil => rfl
  | cons item items ih =>
    cases item with
    | token t => exact ih
    | error e =>
      cases e with
      | unexpectedChar => exact ih
      | unterminatedString => exact congrArg (_ :: ·) ih

/-- A blanked source has the tokens of the source, each at its line and with its span.  It has no
foreign character, and the same open string if there is one. -/
theorem tokenize_blanked (source : String) :
    (tokenize (blanked source)).1 = (tokenize source).1 ∧
      (tokenize (blanked source)).2 = (tokenize source).2.filter ScanError.isOpenString ∧
      (∀ c line span, .unexpectedChar c line span ∉ (tokenize (blanked source)).2) ∧
      ∀ line span, .unterminatedString line span ∈ (tokenize (blanked source)).2 ↔
        .unterminatedString line span ∈ (tokenize source).2 := by
  have errors : (tokenize (blanked source)).2 =
      (tokenize source).2.filter ScanError.isOpenString := by
    rw [tokenize, scan_blanked]
    exact filterMap_error_filter _
  refine ⟨?_, errors, ?_, ?_⟩
  · rw [tokenize, scan_blanked]
    exact filterMap_token_filter _
  · intro c line span mem
    rw [errors] at mem
    exact Bool.false_ne_true (List.mem_filter.1 mem).2
  · intro line span
    rw [errors, List.mem_filter]
    exact and_iff_left rfl

/-- A comment of two lines leaves its line break, and a foreign character a space for each byte. -/
example : blanked "1.é5 /*\"\n*/ \"a\n" = "1.  5    \n   \"a\n" := by
  decide +kernel

end LoxScan
