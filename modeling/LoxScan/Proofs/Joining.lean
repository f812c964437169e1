/-
# `LoxScan.Proofs.Joining` — which tokens may stand side by side

Spellings that are written one behind the other, with nothing between them, are
read back as they were written exactly if no two of them, and no three, run
together (`scan_joined`).  What runs together is listed by `RunsOn`:

| | is carried on by |
| :-- | :-- |
| a word | a word or a number |
| a number | a number |
| a number without a fraction | a point and a number behind it |
| `!`, `=`, `<`, `>` | `=` or `==` |
| a slash | a slash or a star |

A row of spellings is a row of pieces if and only if each of them stands before
the text of those behind it (`isRow_joined_iff`), and whether it does is a
question about the first character of that text, or about the first two.  These
are known by the kinds of the next spellings (`Begins`).

For the converse, reading back is asked for as weakly as can be, by the texts of
the tokens alone.  It still leaves no room for white space or a comment, because
the texts of the tokens are then as long as the whole source
(`pieces_eq_of_tokens`).
-/
import LoxScan.Proofs.Munch
import LoxScan.Proofs.Tiling

namespace LoxScan

/-! ## Rows of spellings -/

/-- A text that is one token by itself, with the kind and the value that it has. -/
structure Spelling where
  text : List Char
  kind : Kind
  value : Option Literal
  spells : Spells text kind value

/-- The text of spellings with nothing between them. -/
def joined (row : List Spelling) : List Char :=
  row.flatMap Spelling.text

/-- The kinds of the marks that are written with a character first. -/
def Kind.marksFrom (c : Char) : List Kind :=
  (Mark.all.filter fun mark => mark.spelling.toList.head? = some c).map .mark

/-- Identifiers and reserved words. -/
def Kind.isWord : Kind → Bool
  | identifier | reserved _ => true
  | _ => false

/-- A spelling is read on, past its end, into the spellings behind it. -/
inductive RunsOn : Spelling → List Spelling → Prop
  | word {one next : Spelling} {row : List Spelling} : one.kind.isWord →
      next.kind.isWord ∨ next.kind = .number → RunsOn one (next :: row)
  | number {one next : Spelling} {row : List Spelling} : one.kind = .number →
      next.kind = .number → RunsOn one (next :: row)
  | fraction {one point next : Spelling} {row : List Spelling} : one.kind = .number →
      '.' ∉ one.text → point.kind = .mark .dot → next.kind = .number →
      RunsOn one (point :: next :: row)
  | equals {one next : Spelling} {row : List Spelling} {mark : Mark} : one.kind = .mark mark →
      mark ∈ [.bang, .equal, .less, .greater] →
      next.kind = .mark .equal ∨ next.kind = .mark .equalEqual → RunsOn one (next :: row)
  | comment {one next : Spelling} {row : List Spelling} : one.kind = .mark .slash →
      next.kind = .mark .slash ∨ next.kind = .mark .star → RunsOn one (next :: row)

/-- Somewhere in a row, a spelling runs on. -/
inductive Clash : List Spelling → Prop
  | here {one : Spelling} {row : List Spelling} : RunsOn one row → Clash (one :: row)
  | later {one : Spelling} {row : List Spelling} : Clash row → Clash (one :: row)

theorem clash_cons_iff {one : Spelling} {row : List Spelling} :
    Clash (one :: row) ↔ RunsOn one row ∨ Clash row := by
  constructor
  · intro clash
    cases clash with
    | here runs => exact Or.inl runs
    | later clash => exact Or.inr clash
  · rintro (runs | clash)
    · exact .here runs
    · exact .later clash

/-- A scan of a row finds tokens with the texts of its spellings, in their order, and nothing else
before the end. -/
def ReadsBack (row : List Spelling) : Prop :=
  ∃ (tokens : List Token) (e : Token),
    scan (String.ofList (joined row)) = tokens.map .token ++ [.token e] ∧ e.kind = .eof ∧
      tokens.map Token.lexeme = row.map fun s => String.ofList s.text

/-- The tokens of a row, with `before` written before it. -/
def tokensAlong (before : List Char) : List Spelling → List Token
  | [] => []
  | s :: row =>
    ⟨s.kind, String.ofList s.text, s.value, 1 + before.count '\n',
      ⟨byteLength before, byteLength before + byteLength s.text⟩⟩ ::
        tokensAlong (before ++ s.text) row

/-! ## What a spelling begins with -/

/-- The characters that spellings of a kind begin with. -/
inductive Begins : Kind → Char → Prop
  | mark {mark : Mark} {c : Char} {tail : List Char} : mark.spelling.toList = c :: tail →
      Begins (.mark mark) c
  | string : Begins .string '"'
  | number {c : Char} : c.isDigit → Begins .number c
  | word {kind : Kind} {c : Char} : kind.isWord → isLetter c → Begins kind c

theorem Spells.begins {text : List Char} {kind : Kind} {value : Option Literal}
    (spells : Spells text kind value) : ∃ c tail, text = c :: tail ∧ Begins kind c := by
  cases spells with
  | mark mark =>
    obtain ⟨c, tail, spelled⟩ := List.exists_cons_of_ne_nil
      (mt String.toList_eq_nil_iff.1 mark.spelling_ne_empty)
    exact ⟨c, tail, spelled, .mark spelled⟩
  | string => exact ⟨_, _, rfl, .string⟩
  | whole isDigits =>
    obtain ⟨c, tail, rfl⟩ := List.exists_cons_of_ne_nil isDigits.1
    exact ⟨c, tail, rfl, .number (isDigits.2 c List.mem_cons_self)⟩
  | decimal isDigits =>
    obtain ⟨c, tail, rfl⟩ := List.exists_cons_of_ne_nil isDigits.1
    exact ⟨c, _, rfl, .number (isDigits.2 c List.mem_cons_self)⟩
  | reserved word =>
    have formed := word.wellFormed
    generalize word.spelling.toList = letters at formed
    cases formed with
    | word first => exact ⟨_, _, rfl, .word rfl first⟩
  | identifier first => exact ⟨_, _, rfl, .word rfl first⟩

namespace Begins

variable {kind : Kind} {c : Char}

theorem isWordChar_iff (begins : Begins kind c) :
    isWordChar c ↔ kind.isWord ∨ kind = .number := by
  cases begins with
  | @mark mark _ _ spelled => cases mark <;> cases spelled <;> decide
  | string => decide
  | number isDigit => simp [isWordChar, isDigit]
  | word isWord first => simp [isWordChar, isWord, first]

theorem isDigit_iff (begins : Begins kind c) : c.isDigit ↔ kind = .number := by
  cases begins with
  | @mark mark _ _ spelled => cases mark <;> cases spelled <;> decide
  | string => decide
  | number isDigit => simp [isDigit]
  | word isWord first =>
    rw [CharClass.not_isDigit_of_isLetter first]
    constructor
    · intro none
      cases none
    · rintro rfl
      cases isWord

/-- A character that is neither of a word nor a quote begins spellings of marks only. -/
theorem eq_iff {d : Char} (noWord : isWordChar d = false) (noQuote : d ≠ '"')
    (begins : Begins kind c) : c = d ↔ kind ∈ Kind.marksFrom d := by
  have marks : kind ∈ Kind.marksFrom d ↔
      ∃ mark, mark.spelling.toList.head? = some d ∧ Kind.mark mark = kind := by
    simp [Kind.marksFrom, Mark.mem_all]
  rw [marks]
  constructor
  · rintro rfl
    cases begins with
    | @mark mark _ _ spelled => exact ⟨mark, by rw [spelled, List.head?_cons], rfl⟩
    | string => exact absurd rfl noQuote
    | number isDigit => simp [isWordChar, isDigit] at noWord
    | word isWord first => simp [isWordChar, first] at noWord
  · rintro ⟨mark, head, rfl⟩
    cases begins with
    | mark spelled =>
      rw [spelled, List.head?_cons] at head
      exact Option.some.inj head
    | word isWord => cases isWord

theorem eq_equals_iff (begins : Begins kind c) :
    c = '=' ↔ kind = .mark .equal ∨ kind = .mark .equalEqual := by
  have marks : Kind.marksFrom '=' = [.mark .equal, .mark .equalEqual] := by decide
  rw [begins.eq_iff (by decide) (by decide), marks, List.mem_cons, List.mem_singleton]

theorem eq_slash_iff (begins : Begins kind c) : c = '/' ↔ kind = .mark .slash := by
  have marks : Kind.marksFrom '/' = [.mark .slash] := by decide
  rw [begins.eq_iff (by decide) (by decide), marks, List.mem_singleton]

theorem eq_star_iff (begins : Begins kind c) : c = '*' ↔ kind = .mark .star := by
  have marks : Kind.marksFrom '*' = [.mark .star] := by decide
  rw [begins.eq_iff (by decide) (by decide), marks, List.mem_singleton]

theorem eq_point_iff (begins : Begins kind c) : c = '.' ↔ kind = .mark .dot := by
  have marks : Kind.marksFrom '.' = [.mark .dot] := by decide
  rw [begins.eq_iff (by decide) (by decide), marks, List.mem_singleton]

/-- A mark is carried on in two ways: joined to an equals sign, or made a comment. -/
theorem grows_iff (begins : Begins kind c) (mark : Mark) :
    mark.grows c ↔
      (mark ∈ [.bang, .equal, .less, .greater] ∧
        (kind = .mark .equal ∨ kind = .mark .equalEqual)) ∨
      (mark = .slash ∧ (kind = .mark .slash ∨ kind = .mark .star)) := by
  rw [← begins.eq_equals_iff, ← begins.eq_slash_iff, ← begins.eq_star_iff]
  cases mark <;> simp [Mark.grows]

end Begins

/-! ## What carries a spelling on -/

/-- A run of characters stops before a row if it does before the first spelling of it. -/
theorem stops_joined_iff {p : Char → Bool} {carries : Kind → Prop}
    (agrees : ∀ {kind c}, Begins kind c → (p c ↔ carries kind)) (row : List Spelling) :
    Stops p (joined row) ↔ ¬ ∃ next ∈ row.head?, carries next.kind := by
  cases row with
  | nil =>
    constructor
    · rintro - ⟨next, none, -⟩
      cases none
    · intro _
      exact stops_nil p
  | cons next row =>
    obtain ⟨c, tail, spelled, begins⟩ := next.spells.begins
    have whole : joined (next :: row) = c :: (tail ++ joined row) := by
      rw [joined, List.flatMap_cons, spelled]
      rfl
    rw [whole, stops_cons, ← Bool.not_eq_true, agrees begins]
    simp

theorem Spells.eq_of_dot {text : List Char} {value : Option Literal}
    (spells : Spells text (.mark .dot) value) : text = ['.'] := by
  cases spells with
  | mark => rfl

/-- A row goes on as a fraction does if a point comes first in it, and then a number. -/
theorem startsFraction_joined_iff {row : List Spelling} :
    StartsFraction (joined row) ↔
      ∃ point next later, row = point :: next :: later ∧ point.kind = .mark .dot ∧
        next.kind = .number := by
  constructor
  · rintro ⟨d, tail, whole, isDigit⟩
    cases row with
    | nil => cases whole
    | cons point row =>
      obtain ⟨text, kind, value, spells⟩ := point
      obtain ⟨c, others, rfl, begins⟩ := spells.begins
      obtain ⟨rfl, rest⟩ := List.cons.inj whole
      obtain rfl := begins.eq_point_iff.1 rfl
      obtain ⟨-, rfl⟩ := List.cons.inj spells.eq_of_dot
      cases row with
      | nil => cases rest
      | cons next later =>
        obtain ⟨e, others, spelled, begins⟩ := next.spells.begins
        change (next :: later).flatMap Spelling.text = d :: tail at rest
        rw [List.flatMap_cons, spelled] at rest
        obtain ⟨rfl, -⟩ := List.cons.inj rest
        exact ⟨_, next, later, rfl, rfl, begins.isDigit_iff.1 isDigit⟩
  · rintro ⟨⟨text, kind, value, spells⟩, next, later, rfl, rfl, number⟩
    obtain rfl := spells.eq_of_dot
    obtain ⟨d, others, spelled, begins⟩ := next.spells.begins
    refine ⟨d, others ++ joined later, ?_, begins.isDigit_iff.2 number⟩
    rw [joined, List.flatMap_cons, List.flatMap_cons, spelled]
    rfl

section RunsOn

variable {one : Spelling} {row : List Spelling}

theorem runsOn_iff_of_mark {mark : Mark} (same : one.kind = .mark mark) :
    RunsOn one row ↔ ∃ next ∈ row.head?,
      (mark ∈ [.bang, .equal, .less, .greater] ∧
        (next.kind = .mark .equal ∨ next.kind = .mark .equalEqual)) ∨
      (mark = .slash ∧ (next.kind = .mark .slash ∨ next.kind = .mark .star)) := by
  constructor
  · intro runs
    cases runs with
    | word isWord => rw [same] at isWord; cases isWord
    | number isNumber => rw [same] at isNumber; cases isNumber
    | fraction isNumber => rw [same] at isNumber; cases isNumber
    | @equals next _ _ found mem carried =>
      rw [same] at found
      cases found
      exact ⟨next, rfl, Or.inl ⟨mem, carried⟩⟩
    | @comment next _ found carried =>
      rw [same] at found
      cases found
      exact ⟨next, rfl, Or.inr ⟨rfl, carried⟩⟩
  · rintro ⟨next, head, carried⟩
    obtain ⟨later, rfl⟩ := List.head?_eq_some_iff.1 head
    rcases carried with ⟨mem, carried⟩ | ⟨rfl, carried⟩
    · exact .equals same mem carried
    · exact .comment same carried

theorem not_runsOn_of_string (same : one.kind = .string) : ¬ RunsOn one row := by
  intro runs
  cases runs with
  | word isWord => rw [same] at isWord; cases isWord
  | number isNumber => rw [same] at isNumber; cases isNumber
  | fraction isNumber => rw [same] at isNumber; cases isNumber
  | equals found => rw [same] at found; cases found
  | comment found => rw [same] at found; cases found

theorem runsOn_iff_of_number (same : one.kind = .number) :
    RunsOn one row ↔ (∃ next ∈ row.head?, next.kind = .number) ∨
      '.' ∉ one.text ∧ ∃ point next later, row = point :: next :: later ∧
        point.kind = .mark .dot ∧ next.kind = .number := by
  constructor
  · intro runs
    cases runs with
    | word isWord => rw [same] at isWord; cases isWord
    | @number next _ _ carried => exact Or.inl ⟨next, rfl, carried⟩
    | @fraction point next later _ noPoint isPoint carried =>
      exact Or.inr ⟨noPoint, point, next, later, rfl, isPoint, carried⟩
    | equals found => rw [same] at found; cases found
    | comment found => rw [same] at found; cases found
  · rintro (⟨next, head, carried⟩ | ⟨noPoint, point, next, later, rfl, isPoint, carried⟩)
    · obtain ⟨later, rfl⟩ := List.head?_eq_some_iff.1 head
      exact .number same carried
    · exact .fraction same noPoint isPoint carried

theorem runsOn_iff_of_isWord (isWord : one.kind.isWord) :
    RunsOn one row ↔ ∃ next ∈ row.head?, next.kind.isWord ∨ next.kind = .number := by
  constructor
  · intro runs
    cases runs with
    | @word next _ _ carried => exact ⟨next, rfl, carried⟩
    | number isNumber => rw [isNumber] at isWord; cases isWord
    | fraction isNumber => rw [isNumber] at isWord; cases isWord
    | equals found => rw [found] at isWord; cases isWord
    | comment found => rw [found] at isWord; cases isWord
  · rintro ⟨next, head, carried⟩
    obtain ⟨later, rfl⟩ := List.head?_eq_some_iff.1 head
    exact .word isWord carried

end RunsOn

/-! ## Spellings are lexemes -/

/-- The lexeme that a spelling is the text of. -/
noncomputable def Spelling.lexeme (s : Spelling) : Lexeme :=
  s.spells.exists_lexeme.choose

namespace Spelling

theorem wellFormed_lexeme (s : Spelling) : s.lexeme.WellFormed :=
  s.spells.exists_lexeme.choose_spec.1

theorem text_lexeme (s : Spelling) : s.lexeme.text = s.text :=
  s.spells.exists_lexeme.choose_spec.2.1

theorem kind_lexeme (s : Spelling) : s.lexeme.kind = s.kind :=
  s.spells.exists_lexeme.choose_spec.2.2.1

theorem literal_lexeme (s : Spelling) : s.lexeme.literal? = s.value :=
  s.spells.exists_lexeme.choose_spec.2.2.2

end Spelling

theorem Kind.isWord_ofWord (text : String) : (ofWord text).isWord := by
  unfold ofWord
  cases Reserved.ofSpelling? text <;> rfl

theorem IsDigits.point_notMem {digits : List Char} (isDigits : IsDigits digits) :
    '.' ∉ digits := by
  intro mem
  exact absurd (isDigits.2 '.' mem) (by decide)

/-- A number has a point in it if it has a fraction. -/
theorem Lexeme.WellFormed.point_notMem_iff {whole fraction : List Char}
    (formed : (Lexeme.number whole fraction).WellFormed) :
    '.' ∉ (Lexeme.number whole fraction).text ↔ fraction = [] := by
  cases formed with
  | whole isDigits =>
    rw [text, if_pos rfl, List.append_nil]
    exact ⟨fun _ => rfl, fun _ => isDigits.point_notMem⟩
  | decimal isDigits isFraction =>
    rw [text, if_neg isFraction.1]
    constructor
    · intro noPoint
      exact absurd (List.mem_append_right _ List.mem_cons_self) noPoint
    · intro none
      exact absurd none isFraction.1

/-- What follows a spelling carries it on exactly if it runs on. -/
theorem stopsBefore_joined_iff (one : Spelling) (row : List Spelling) :
    one.lexeme.StopsBefore (joined row) ↔ ¬ RunsOn one row := by
  have formed := one.wellFormed_lexeme
  have text := one.text_lexeme
  have kind := one.kind_lexeme
  cases found : one.lexeme with
  | mark m =>
    rw [found] at kind
    rw [runsOn_iff_of_mark kind.symm]
    exact stops_joined_iff (fun begins => begins.grows_iff m) row
  | quoted body =>
    rw [found] at kind
    exact ⟨fun _ => not_runsOn_of_string kind.symm, fun _ => trivial⟩
  | number whole fraction =>
    rw [found] at formed text kind
    rw [runsOn_iff_of_number kind.symm, not_or, not_and, ← text, formed.point_notMem_iff,
      ← startsFraction_joined_iff]
    exact and_congr (stops_joined_iff Begins.isDigit_iff row) Iff.rfl
  | word letters =>
    rw [found] at kind
    have isWord : one.kind.isWord := by
      rw [← kind]
      exact Kind.isWord_ofWord _
    rw [runsOn_iff_of_isWord isWord]
    exact stops_joined_iff Begins.isWordChar_iff row

/-! ## Rows that are read back -/

/-- The piece that a spelling is the text of. -/
noncomputable def Spelling.piece (s : Spelling) : Piece :=
  .lexeme s.lexeme

theorem Spelling.text_piece (s : Spelling) : s.piece.text = s.text :=
  s.text_lexeme

/-- A row of spellings is a row of pieces unless there is a clash in it. -/
theorem isRow_joined_iff (row : List Spelling) :
    Piece.IsRow (row.map Spelling.piece) (joined row) ↔ ¬ Clash row := by
  induction row with
  | nil =>
    constructor
    · intro _ clash
      cases clash
    · intro _
      exact .nil
  | cons one row ih =>
    have whole : joined (one :: row) = one.piece.text ++ joined row := by
      rw [joined, List.flatMap_cons, one.text_piece]
      rfl
    rw [List.map_cons, whole, Piece.isRow_cons_iff, ih, clash_cons_iff, not_or,
      ← stopsBefore_joined_iff, Spelling.piece,
      Piece.standsBefore_lexeme_iff one.wellFormed_lexeme]

/-- The token of a spelling is that of its lexeme. -/
theorem Spelling.item?_piece (s : Spelling) (before : List Char) :
    s.piece.item? (Position.start.after before) =
      some (.token ⟨s.kind, String.ofList s.text, s.value, 1 + before.count '\n',
        ⟨byteLength before, byteLength before + byteLength s.text⟩⟩) := by
  rw [Position.start_after, piece, Piece.item?, Token.ofLexeme, s.kind_lexeme, s.literal_lexeme,
    s.text_lexeme]
  rfl

theorem itemsAlong_map_piece (before : List Char) (row : List Spelling) :
    itemsAlong (Position.start.after before) (row.map Spelling.piece) =
      (tokensAlong before row).map .token := by
  induction row generalizing before with
  | nil => rfl
  | cons s row ih =>
    rw [List.map_cons, itemsAlong, s.item?_piece, ← Position.after_append, s.text_piece, ih]
    rfl

/-- The texts of tokens that are all that is found are no longer than the whole; and if they are as
long, nothing but these tokens is there. -/
theorem pieces_eq_of_tokens {pieces : List Piece} {text : List Char}
    (isRow : Piece.IsRow pieces text) {p : Position} {tokens : List Token} {row : List Spelling}
    (found : itemsAlong p pieces = tokens.map .token)
    (same : tokens.map Token.lexeme = row.map fun s => String.ofList s.text) :
    (joined row).length ≤ text.length ∧
      ((joined row).length = text.length → pieces = row.map Spelling.piece) := by
  induction isRow generalizing p tokens row with
  | nil =>
    obtain rfl := List.map_eq_nil_iff.1 found.symm
    obtain rfl := List.map_eq_nil_iff.1 same.symm
    exact ⟨Nat.le_refl _, fun _ => rfl⟩
  | @cons piece pieces rest stands _ ih =>
    have nonempty := List.length_pos_iff.2 (Piece.text_ne_nil stands)
    cases made : piece.item? p with
    | none =>
      -- a piece that is passed over leaves less than the whole to the tokens
      rw [itemsAlong, made] at found
      have short := (ih found same).1
      rw [List.length_append]
      exact ⟨by omega, fun equal => by omega⟩
    | some item =>
      rw [itemsAlong, made] at found
      cases tokens with
      | nil => cases found
      | cons t tokens =>
        obtain ⟨rfl, foundLater⟩ := List.cons.inj found
        obtain ⟨l, rfl, rfl⟩ := Piece.exists_lexeme made
        cases row with
        | nil => cases same
        | cons s row =>
          obtain ⟨sameHere, sameLater⟩ := List.cons.inj same
          obtain ⟨short, only⟩ := ih foundLater sameLater
          have text : l.text = s.lexeme.text := by
            rw [s.text_lexeme]
            exact String.ofList_injective sameHere
          have lexeme : l = s.lexeme :=
            stands.wellFormed.eq_of_text_eq s.wellFormed_lexeme text
          have whole : (joined (s :: row)).length = l.text.length + (joined row).length := by
            rw [text, s.text_lexeme, joined, List.flatMap_cons, List.length_append]
            rfl
          rw [whole, List.length_append, Piece.text]
          refine ⟨by omega, ?_⟩
          intro equal
          rw [only (by omega), lexeme]
          rfl

/-- What is read back has no room for anything but its spellings. -/
theorem isRow_of_readsBack {row : List Spelling} (readsBack : ReadsBack row) :
    Piece.IsRow (row.map Spelling.piece) (joined row) := by
  obtain ⟨tokens, e, found, -, same⟩ := readsBack
  rw [scan_eq_append, String.toList_ofList] at found
  obtain ⟨items, -⟩ := List.append_inj' found rfl
  have isRow : Piece.IsRow (Piece.pieces (joined row)) (joined row) := Piece.pieces_eq_iff.1 rfl
  rw [(pieces_eq_of_tokens isRow items same).2 rfl] at isRow
  exact isRow

theorem scan_of_isRow {row : List Spelling}
    (isRow : Piece.IsRow (row.map Spelling.piece) (joined row)) :
    scan (String.ofList (joined row)) = (tokensAlong [] row).map .token ++
      [.token (.eof (Position.start.after (joined row)))] := by
  rw [scan_eq_append, String.toList_ofList, Piece.pieces_eq_iff.2 isRow, ← itemsAlong_map_piece]
  rfl

theorem map_lexeme_tokensAlong (before : List Char) (row : List Spelling) :
    (tokensAlong before row).map Token.lexeme = row.map fun s => String.ofList s.text := by
  induction row generalizing before with
  | nil => rfl
  | cons s row ih => rw [tokensAlong, List.map_cons, List.map_cons, ih]

/-- Spellings that are written one behind the other are read back exactly if there is no clash among
them; and then their tokens are found with all that belongs to them, and the end behind them. -/
theorem scan_joined (row : List Spelling) :
    (ReadsBack row ↔ ¬ Clash row) ∧
      (¬ Clash row → scan (String.ofList (joined row)) =
        (tokensAlong [] row).map .token ++
          [.token (.eof (Position.start.after (joined row)))]) := by
  have found : ¬ Clash row → scan (String.ofList (joined row)) =
      (tokensAlong [] row).map .token ++ [.token (.eof (Position.start.after (joined row)))] := by
    intro noClash
    exact scan_of_isRow ((isRow_joined_iff row).2 noClash)
  refine ⟨⟨?_, ?_⟩, found⟩
  · intro readsBack
    exact (isRow_joined_iff row).1 (isRow_of_readsBack readsBack)
  · intro noClash
    exact ⟨_, _, found noClash, rfl, map_lexeme_tokensAlong [] row⟩

end LoxScan
