/-
# `LoxScan.Proofs.Tiling` — items and trivia cover a source

Every byte of a source is in the span of one item, or in a gap between two, and
the gaps hold white space and comments, whole ones only.  `Tiling` says this of
a list of items by their spans, `scan_tiles` proves it of every scan, and adds
that the tokens and the errors of a source are its items told apart (`Merged`).

The gaps need the one induction here (`isChain_itemsOf`).  What it carries is
how much of a gap has been passed: a piece of trivia makes the gap longer, and
any other piece closes it and begins an empty one.  What a gap holds depends on
what follows it, for a comment to the end of a line is whole only if the line
ends there, so gaps are relations between a text and the rest (`Gap`).
-/
import Mathlib.Data.List.Chain
import LoxScan.Proofs.Place

namespace LoxScan

/-! ## Gaps -/

/-- White space, or a comment that does not break off: one that goes to the end of the line has the
end of the line, or of the text, behind it. -/
def WholeTrivia (text rest : List Char) : Prop :=
  Trivia text rest ∧ (['/', '/'] <+: text → Stops Piece.isInLine rest)

/-- A text, in front of `rest`, is white space and whole comments one after the other. -/
inductive Gap : List Char → List Char → Prop
  | nil {rest : List Char} : Gap [] rest
  | cons {text gap rest : List Char} : WholeTrivia text (gap ++ rest) → Gap gap rest →
      Gap (text ++ gap) rest

/-- A gap goes on with what may follow it. -/
theorem Gap.append {gap text rest : List Char} (passed : Gap gap (text ++ rest))
    (next : WholeTrivia text rest) : Gap (gap ++ text) rest := by
  generalize whole : text ++ rest = after at passed
  induction passed with
  | nil =>
    have : Gap (text ++ []) rest := .cons next .nil
    rwa [List.append_nil] at this
  | @cons first gap after head _ ih =>
    rw [List.append_assoc]
    refine .cons ?_ (ih whole)
    rwa [List.append_assoc, whole]

theorem Piece.StandsBefore.wholeTrivia {text rest : List Char}
    (stands : (Piece.trivia text).StandsBefore rest) : WholeTrivia text rest := by
  cases stands with
  | blank blank =>
    refine ⟨.blank blank, ?_⟩
    intro opens
    exact absurd opens.length_le (by simp)
  | line noBreak stops => exact ⟨.line noBreak, fun _ => stops⟩
  | block goesOn =>
    refine ⟨.block goesOn, ?_⟩
    intro opens
    simp at opens
  | unclosed goesOn =>
    refine ⟨.unclosed goesOn, ?_⟩
    intro opens
    simp at opens

/-- Only trivia is passed over. -/
theorem Piece.exists_trivia {piece : Piece} {p : Position} (passed : piece.item? p = none) :
    ∃ text, piece = .trivia text := by
  cases piece with
  | trivia text => exact ⟨text, rfl⟩
  | lexeme => cases passed
  | stray => cases passed
  | openString => cases passed

/-- Between two spans, in this order, a source has a gap and nothing else. -/
def Apart (source : List Char) (one other : Span) : Prop :=
  ∃ before gap after, source = before ++ (gap ++ after) ∧ byteLength before = one.stop ∧
    byteLength (before ++ gap) = other.start ∧ Gap gap after

/-! ## Tilings -/

/-- Items, and the token of the end behind them, cover a source but for gaps: before the first
item, between any two, and before the end. -/
structure Tiling (source : String) (items : List Item) (last : Token) : Prop where
  last_eof : last.kind = .eof ∧ last.lexeme = "" ∧ last.literal = none ∧
    last.span = ⟨source.utf8ByteSize, source.utf8ByteSize⟩
  kind_ne_eof : ∀ t, .token t ∈ items → t.kind ≠ .eof
  nonempty : ∀ item ∈ items, item.span.start < item.span.stop
  boundaries : ∀ item ∈ items, String.Pos.Raw.IsValid source ⟨item.span.start⟩ ∧
    String.Pos.Raw.IsValid source ⟨item.span.stop⟩
  lexeme_eq : ∀ t, .token t ∈ items →
    source.toByteArray.extract t.span.start t.span.stop = t.lexeme.toByteArray
  ordered : (items ++ [Item.token last]).Pairwise fun one other =>
    one.span.stop ≤ other.span.start ∧ one.span.start < other.span.start
  gaps : (⟨0, 0⟩ :: (items ++ [Item.token last]).map Item.span).IsChain (Apart source.toList)

/-- Items are tokens and errors, each in the order that they have among the items. -/
inductive Merged : List Token → List ScanError → List Item → Prop
  | nil : Merged [] [] []
  | token {t : Token} {tokens : List Token} {errors : List ScanError} {items : List Item} :
      Merged tokens errors items → Merged (t :: tokens) errors (.token t :: items)
  | error {e : ScanError} {tokens : List Token} {errors : List ScanError} {items : List Item} :
      Merged tokens errors items → Merged tokens (e :: errors) (.error e :: items)

theorem merged_filterMap (items : List Item) :
    Merged (items.filterMap Item.token?) (items.filterMap Item.error?) items := by
  induction items with
  | nil => exact .nil
  | cons item items ih =>
    cases item with
    | token t => exact .token ih
    | error e => exact .error ih

theorem Merged.length_add {tokens : List Token} {errors : List ScanError} {items : List Item}
    (merged : Merged tokens errors items) : tokens.length + errors.length = items.length := by
  induction merged with
  | nil => rfl
  | token _ ih => simp only [List.length_cons]; omega
  | error _ ih => simp only [List.length_cons]; omega

/-! ## Order -/

theorem le_start_of_mem_itemsOf {row : List Piece} {p : Position} {item : Item}
    (mem : item ∈ itemsOf p row) : p.offset ≤ item.span.start := by
  induction row generalizing p with
  | nil =>
    obtain rfl := List.mem_singleton.1 mem
    exact Nat.le_refl _
  | cons piece row ih =>
    rcases List.mem_append.1 mem with here | later
    · rw [Piece.span_item (Option.mem_toList.1 here)]
      exact Nat.le_refl _
    · exact Nat.le_trans (Nat.le_add_right _ _) (ih later)

theorem pairwise_itemsOf {row : List Piece} {text : List Char} (isRow : Piece.IsRow row text)
    (p : Position) : (itemsOf p row).Pairwise fun one other =>
      one.span.stop ≤ other.span.start ∧ one.span.start < other.span.start := by
  induction isRow generalizing p with
  | nil => exact List.pairwise_singleton _ _
  | @cons piece row rest stands _ ih =>
    cases made : piece.item? p with
    | none =>
      rw [itemsOf, made]
      exact ih _
    | some item =>
      rw [itemsOf, made]
      refine List.pairwise_cons.2 ⟨?_, ih _⟩
      intro other mem
      have behind := le_start_of_mem_itemsOf mem
      have nonempty := byteLength_pos (Piece.text_ne_nil stands)
      rw [Piece.span_item made]
      simp only [Position.spanOf, Position.offset_after] at behind ⊢
      omega

/-! ## Gaps between items -/

/-- From a place on, with `gap` passed since the last item, items are apart by gaps. -/
theorem isChain_itemsOf {row : List Piece} {text : List Char} (isRow : Piece.IsRow row text)
    {source : List Char} (before gap : List Char) {span : Span}
    (split : source = before ++ (gap ++ text)) (passed : Gap gap text)
    (stop : byteLength before = span.stop) :
    (span :: (itemsOf (Position.start.after (before ++ gap)) row).map Item.span).IsChain
      (Apart source) := by
  induction isRow generalizing before gap span with
  | nil =>
    refine .cons_cons ⟨before, gap, [], split, stop, ?_, passed⟩ (.singleton _)
    exact (Nat.zero_add _).symm
  | @cons piece row rest stands _ ih =>
    cases made : piece.item? (Position.start.after (before ++ gap)) with
    | none =>
      obtain ⟨text, rfl⟩ := Piece.exists_trivia made
      rw [itemsOf, made, ← Position.after_append, List.append_assoc]
      refine ih before (gap ++ text) ?_ (passed.append stands.wholeTrivia) stop
      rw [split, List.append_assoc, Piece.text]
    | some item =>
      rw [itemsOf, made, ← Position.after_append]
      refine .cons_cons ⟨before, gap, piece.text ++ rest, split, stop, ?_, passed⟩ ?_
      · rw [Piece.span_item made]
        exact (Nat.zero_add _).symm
      · have stop : byteLength (before ++ gap ++ piece.text) = item.span.stop := by
          rw [Piece.span_item made]
          simp [Position.spanOf, Nat.add_assoc]
        have later := ih (before ++ gap ++ piece.text) [] (by rw [split]; simp) .nil stop
        rw [List.append_nil] at later
        exact later

/-! ## Every scan is a tiling -/

theorem Lexeme.kind_ne_eof (l : Lexeme) : l.kind ≠ .eof := by
  intro same
  cases l with
  | word letters =>
    rw [kind, Kind.ofWord] at same
    cases found : Reserved.ofSpelling? (String.ofList letters) with
    | none => rw [found] at same; cases same
    | some word => rw [found] at same; cases same
  | _ => cases same

theorem Piece.exists_lexeme {piece : Piece} {p : Position} {t : Token}
    (made : piece.item? p = some (.token t)) :
    ∃ l, piece = .lexeme l ∧ t = .ofLexeme p l := by
  cases piece with
  | lexeme l => cases made; exact ⟨l, rfl, rfl⟩
  | trivia => cases made
  | stray => cases made
  | openString => cases made

theorem tiling_itemsAlong (source : String) :
    Tiling source (itemsAlong .start (Piece.pieces source.toList))
      (.eof (Position.start.after source.toList)) where
  last_eof := by
    rw [utf8ByteSize_eq]
    simp [Token.eof, Position.spanOf]
  kind_ne_eof := by
    intro t mem
    obtain ⟨before, piece, rest, -, -, made⟩ := exists_piece_of_mem mem
    obtain ⟨l, -, rfl⟩ := Piece.exists_lexeme made
    exact l.kind_ne_eof
  nonempty := by
    intro item mem
    obtain ⟨before, piece, rest, -, stands, made⟩ := exists_piece_of_mem mem
    have nonempty := byteLength_pos (Piece.text_ne_nil stands)
    rw [Piece.span_item made]
    exact Nat.lt_add_of_pos_right nonempty
  boundaries := by
    intro item mem
    obtain ⟨before, piece, rest, split, -, made⟩ := exists_piece_of_mem mem
    have split' : source.toList = (before ++ piece.text) ++ rest := by
      rw [split, List.append_assoc]
    have one := isValid_of_split split
    have other := isValid_of_split split'
    rw [Piece.span_item made, Position.start_after]
    rw [byteLength_append] at other
    exact ⟨one, other⟩
  lexeme_eq := by
    intro t mem
    obtain ⟨before, piece, rest, split, -, made⟩ := exists_piece_of_mem mem
    obtain ⟨l, rfl, rfl⟩ := Piece.exists_lexeme made
    have bytes := extract_of_split split
    rw [Position.start_after]
    exact bytes
  ordered := by
    rw [← scan_eq_append]
    exact pairwise_itemsOf (Piece.pieces_eq_iff.1 rfl) _
  gaps := by
    rw [← scan_eq_append]
    exact isChain_itemsOf (Piece.pieces_eq_iff.1 rfl) [] [] rfl .nil rfl

/-- The items of a source tile it, they are all that a stream of the source has to give, and its
tokens and errors are these items told apart. -/
theorem scan_tiles (source : String) :
    ∃ items last, scan source = items ++ [.token last] ∧ Tiling source items last ∧
      (Stream.ofSource source).drain.1 = scan source ∧
      Merged (tokenize source).1 (tokenize source).2 (scan source) ∧
      (tokenize source).1.length + (tokenize source).2.length = (scan source).length := by
  have merged : Merged (tokenize source).1 (tokenize source).2 (scan source) :=
    merged_filterMap (scan source)
  exact ⟨_, _, scan_eq_append source, tiling_itemsAlong source, Stream.drain_ofSource source,
    merged, merged.length_add⟩

end LoxScan
