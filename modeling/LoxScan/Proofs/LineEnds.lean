/-
# `LoxScan.Proofs.LineEnds` — a carriage return before a newline makes no difference

Take the carriage return out of every pair of a carriage return and the newline behind
it, wherever in a source the pair stands.  The items of the source stay, with their
kinds, their lines and their numbers.  What changes is the text of strings, and the
bytes that the items begin and end at, by one for each pair before (`scan_unpaired`).

A pair need not lie within one piece.  Where the carriage return is white space, or the
last character of a line comment, the newline behind it is a piece of its own.  So what
is left of a text depends on what follows it, by one character, and `unpairBefore` takes
that into account: with it, what is left of two texts in a row is what is left of the
one and what is left of the other (`unpairBefore_append`), and every piece but a lone
carriage return that a newline follows becomes one piece (`Piece.StandsBefore.unpair`).
An item, on the other hand, neither begins with a newline nor ends with a carriage
return unless the source ends there, so both its ends are behind whole pairs
(`Piece.parted_item`).
-/
import LoxScan.Report
import LoxScan.Proofs.Tiling

namespace LoxScan

/-! ## Pairs -/

/-- A text with a newline in place of every carriage return that has a newline behind it, together
with that newline. -/
def unpair : List Char → List Char
  | '\r' :: '\n' :: rest => '\n' :: unpair rest
  | c :: rest => c :: unpair rest
  | [] => []

/-- A source with a newline in place of every pair. -/
def unpaired (source : String) : String :=
  .ofList (unpair source.toList)

/-- The bytes at which the pairs of a text end, of which the first character is at `offset`. -/
def pairEnds (offset : Nat) : List Char → List Nat
  | '\r' :: '\n' :: rest => (offset + 2) :: pairEnds (offset + 2) rest
  | c :: rest => pairEnds (offset + c.utf8Size) rest
  | [] => []

/-- The number of pairs of a source that lie wholly before a byte.  A pair takes two bytes, so the
number is at most half of that of the byte. -/
def pairsBefore (source : List Char) (offset : Nat) : Nat :=
  (pairEnds 0 source).countP (· ≤ offset)

/-- A pair begins with `c`, if `rest` is what follows. -/
def BeginsPair (c : Char) (rest : List Char) : Prop :=
  c = '\r' ∧ rest.head? = some '\n'

instance (c : Char) (rest : List Char) : Decidable (BeginsPair c rest) :=
  inferInstanceAs (Decidable (_ ∧ _))

theorem unpair_cons (c : Char) (rest : List Char) :
    unpair (c :: rest) = if BeginsPair c rest then unpair rest else c :: unpair rest := by
  by_cases begins : BeginsPair c rest
  · obtain ⟨rfl, newline⟩ := begins
    obtain ⟨tail, rfl⟩ := List.head?_eq_some_iff.1 newline
    rw [if_pos ⟨rfl, rfl⟩]
    simp [unpair]
  · rw [if_neg begins, unpair]
    rintro tail rfl rfl
    exact begins ⟨rfl, rfl⟩

theorem pairEnds_cons (offset : Nat) (c : Char) (rest : List Char) :
    pairEnds offset (c :: rest) =
      if BeginsPair c rest then (offset + 2) :: pairEnds (offset + c.utf8Size) rest
      else pairEnds (offset + c.utf8Size) rest := by
  by_cases begins : BeginsPair c rest
  · obtain ⟨rfl, newline⟩ := begins
    obtain ⟨tail, rfl⟩ := List.head?_eq_some_iff.1 newline
    rw [if_pos ⟨rfl, rfl⟩]
    simp [pairEnds]
    rfl
  · rw [if_neg begins, pairEnds]
    rintro tail rfl rfl
    exact begins ⟨rfl, rfl⟩

/-! ## What is left of a text -/

/-- What is left of a text of which the pairs are taken away, with `after` behind the text. -/
def unpairBefore (after : List Char) : List Char → List Char
  | [] => []
  | c :: rest =>
    if BeginsPair c (rest ++ after) then unpairBefore after rest
    else c :: unpairBefore after rest

section Unpair

variable {text after more : List Char}

theorem unpair_append (text after : List Char) :
    unpair (text ++ after) = unpairBefore after text ++ unpair after := by
  induction text with
  | nil => rfl
  | cons c text ih =>
    rw [List.cons_append, unpair_cons, unpairBefore, ih]
    split
    · rfl
    · rfl

theorem unpairBefore_nil (text : List Char) : unpairBefore [] text = unpair text := by
  have alone := unpair_append text []
  rw [List.append_nil, unpair, List.append_nil] at alone
  exact alone.symm

/-- What is left of two texts is what is left of the one before the other, and of the other. -/
theorem unpairBefore_append (text more after : List Char) :
    unpairBefore after (text ++ more) =
      unpairBefore (more ++ after) text ++ unpairBefore after more := by
  induction text with
  | nil => rfl
  | cons c text ih =>
    rw [List.cons_append, unpairBefore, unpairBefore, ih, List.append_assoc]
    split
    · rfl
    · rfl

theorem unpairBefore_sublist (text after : List Char) : (unpairBefore after text).Sublist text := by
  induction text with
  | nil => exact .slnil
  | cons c text ih =>
    rw [unpairBefore]
    split
    · exact ih.cons c
    · exact ih.cons_cons c

/-- A text without a carriage return is left as it is. -/
theorem unpairBefore_of_notMem (absent : '\r' ∉ text) : unpairBefore after text = text := by
  induction text with
  | nil => rfl
  | cons c text ih =>
    rw [List.mem_cons, not_or] at absent
    rw [unpairBefore, if_neg, ih absent.2]
    rintro ⟨rfl, -⟩
    exact absent.1 rfl

/-- No line break is taken away. -/
theorem count_unpairBefore (text after : List Char) :
    (unpairBefore after text).count '\n' = text.count '\n' := by
  induction text with
  | nil => rfl
  | cons c text ih =>
    rw [unpairBefore]
    split
    · next begins =>
      obtain ⟨rfl, -⟩ := begins
      rw [ih, List.count_cons_of_ne (by decide)]
    · rw [List.count_cons, List.count_cons, ih]

/-- Any first character that is left, the newline apart, was the first before. -/
theorem head?_of_unpairBefore {d : Char} (noNewline : d ≠ '\n')
    (head : (unpairBefore after text).head? = some d) : text.head? = some d := by
  cases text with
  | nil => exact head
  | cons c text =>
    rw [unpairBefore] at head
    split at head
    · next begins =>
      obtain ⟨rfl, newline⟩ := begins
      cases text with
      | nil => cases head
      | cons e text =>
        obtain rfl := Option.some.inj newline
        rw [unpairBefore, if_neg fun begins => absurd begins.1 (by decide)] at head
        exact absurd (Option.some.inj head).symm noNewline
    · exact head

/-- What is left of a text begins as the text does, or with a newline. -/
theorem unpair_cases (text : List Char) :
    unpair text = [] ∧ text = [] ∨ (∃ tail, unpair text = '\n' :: tail) ∨
      ∃ c tail, text = c :: tail ∧ unpair text = c :: unpair tail := by
  cases text with
  | nil => exact .inl ⟨rfl, rfl⟩
  | cons c tail =>
    right
    by_cases begins : BeginsPair c tail
    · obtain ⟨rfl, newline⟩ := begins
      obtain ⟨tail, rfl⟩ := List.head?_eq_some_iff.1 newline
      exact .inl ⟨unpair tail, by rw [unpair]⟩
    · exact .inr ⟨c, tail, rfl, by rw [unpair_cons, if_neg begins]⟩

/-! ## Places -/

/-- No pair goes from a text on into what follows it. -/
def Parted (text after : List Char) : Prop :=
  text.getLast? = some '\r' → after.head? ≠ some '\n'

theorem parted_cons {c : Char} :
    Parted (c :: text) after ↔ (text = [] → ¬ BeginsPair c after) ∧ Parted text after := by
  cases text with
  | nil => simp [Parted, BeginsPair]
  | cons d text => simp [Parted]

/-- At the end of a text, whether a pair begins is the same with what follows as without. -/
theorem Parted.beginsPair_iff {c : Char} (parted : Parted (c :: text) after) :
    BeginsPair c (text ++ after) ↔ BeginsPair c text := by
  cases text with
  | nil =>
    have none : ¬ BeginsPair c [] := fun begins => nomatch begins.2
    exact iff_of_false ((parted_cons.1 parted).1 rfl) none
  | cons d text => rfl

theorem unpairBefore_of_parted (parted : Parted text after) :
    unpairBefore after text = unpair text := by
  induction text with
  | nil => rfl
  | cons c text ih =>
    rw [unpairBefore, unpair_cons, ih (parted_cons.1 parted).2]
    exact if_congr parted.beginsPair_iff rfl rfl

theorem lt_of_mem_pairEnds {offset stop : Nat} (mem : stop ∈ pairEnds offset text) :
    offset < stop := by
  induction text generalizing offset with
  | nil => cases mem
  | cons c text ih =>
    have pos := c.utf8Size_pos
    rw [pairEnds_cons] at mem
    split at mem
    · rcases List.mem_cons.1 mem with rfl | later
      · omega
      · have := ih later
        omega
    · have := ih mem
      omega

/-- What is left of a text is shorter by a byte for each pair of it. -/
theorem byteLength_unpair_add (parted : Parted text after) (offset : Nat) :
    byteLength (unpair text) +
      (pairEnds offset (text ++ after)).countP (· ≤ offset + byteLength text) =
        byteLength text := by
  induction text generalizing offset with
  | nil =>
    rw [List.nil_append, unpair, byteLength_nil, Nat.zero_add, Nat.add_zero]
    refine List.countP_eq_zero.2 ?_
    intro stop mem
    have := lt_of_mem_pairEnds mem
    simpa using this
  | cons c text ih =>
    have later := ih (parted_cons.1 parted).2 (offset + c.utf8Size)
    rw [Nat.add_assoc] at later
    rw [List.cons_append, pairEnds_cons, unpair_cons, if_congr parted.beginsPair_iff rfl rfl,
      byteLength_cons]
    split
    · next begins =>
      obtain ⟨rfl, newline⟩ := begins
      obtain ⟨tail, rfl⟩ := List.head?_eq_some_iff.1 newline
      have size : Char.utf8Size '\r' = 1 := rfl
      have inside : offset + 2 ≤ offset + (Char.utf8Size '\r' + byteLength ('\n' :: tail)) := by
        have pos := byteLength_pos (List.cons_ne_nil '\n' tail)
        omega
      rw [List.countP_cons, if_pos (decide_eq_true inside), ← Nat.add_assoc, later, size,
        Nat.add_comm]
    · rw [byteLength_cons, Nat.add_assoc, later]

end Unpair

/-- The place that a place of a source has in the source without its pairs. -/
def Position.unpaired (source : List Char) (p : Position) : Position :=
  ⟨p.offset - pairsBefore source p.offset, p.line⟩

/-- The stretch that a stretch of a source takes in the source without its pairs. -/
def Span.unpaired (source : List Char) (s : Span) : Span :=
  ⟨s.start - pairsBefore source s.start, s.stop - pairsBefore source s.stop⟩

theorem Position.start_after_unpairBefore {before after : List Char}
    (parted : Parted before after) :
    start.after (unpairBefore after before) = (start.after before).unpaired (before ++ after) := by
  have bytes := byteLength_unpair_add parted 0
  rw [start_after, start_after, count_unpairBefore, unpairBefore_of_parted parted, unpaired,
    pairsBefore]
  rw [Nat.zero_add] at bytes
  congr 1
  exact Nat.eq_sub_of_add_eq bytes

/-! ## Items -/

/-- The value of a token in a source without its pairs. -/
def Literal.unpaired : Literal → Literal
  | text value => text (LoxScan.unpaired value)
  | number value => number value

/-- The token in a source without its pairs: of its texts the pairs are taken away, its span is
moved, and all else stays. -/
def Token.unpaired (source : List Char) (t : Token) : Token :=
  ⟨t.kind, LoxScan.unpaired t.lexeme, t.literal.map Literal.unpaired, t.line,
    t.span.unpaired source⟩

/-- The error in a source without its pairs: its span is moved, and all else stays. -/
def ScanError.unpaired (source : List Char) : ScanError → ScanError
  | unexpectedChar c line span => unexpectedChar c line (span.unpaired source)
  | unterminatedString line span => unterminatedString line (span.unpaired source)

/-- The item in a source without its pairs. -/
def Item.unpaired (source : List Char) : Item → Item
  | token t => token (t.unpaired source)
  | error e => error (e.unpaired source)

/-! ## Pieces -/

/-- What is left of a lexeme; only strings can hold pairs. -/
def Lexeme.unpair : Lexeme → Lexeme
  | quoted body => quoted (LoxScan.unpair body)
  | l => l

/-- What is left of a piece, with `after` behind it. -/
def Piece.unpairBefore (after : List Char) : Piece → Piece
  | trivia text => trivia (LoxScan.unpairBefore after text)
  | lexeme l => lexeme l.unpair
  | stray c => stray c
  | openString body => openString (LoxScan.unpair body)

theorem carriage_ne_of_isWordChar {c : Char} (inWord : isWordChar c) : '\r' ≠ c := by
  rintro rfl
  cases inWord

theorem IsDigits.carriage_notMem {digits : List Char} (isDigits : IsDigits digits) :
    '\r' ∉ digits := by
  intro mem
  exact absurd (isDigits.2 _ mem) (by decide)

/-- Outside strings a lexeme has no carriage return. -/
theorem Lexeme.WellFormed.carriage_notMem {l : Lexeme} (formed : l.WellFormed)
    (noString : ∀ body, l ≠ .quoted body) : '\r' ∉ l.text := by
  cases formed with
  | @mark mark => cases mark <;> simp [text, Mark.spelling]
  | quoted => exact absurd rfl (noString _)
  | @whole digits isDigits =>
    rw [text, if_pos rfl, List.append_nil]
    exact isDigits.carriage_notMem
  | @decimal whole fraction isDigits isFraction =>
    rw [text, if_neg isFraction.1, List.mem_append, List.mem_cons]
    rintro (inWhole | isPoint | inFraction)
    · exact isDigits.carriage_notMem inWhole
    · cases isPoint
    · exact isFraction.carriage_notMem inFraction
  | @word c letters first all =>
    rw [text, List.mem_cons]
    rintro (isFirst | later)
    · exact carriage_ne_of_isWordChar (by simp [isWordChar, first]) isFirst
    · exact carriage_ne_of_isWordChar (all _ later) rfl

/-- No lexeme ends with a carriage return. -/
theorem Lexeme.WellFormed.getLast?_ne_carriage {l : Lexeme} (formed : l.WellFormed) :
    l.text.getLast? ≠ some '\r' := by
  intro last
  by_cases quoted : ∃ body, l = .quoted body
  · obtain ⟨body, rfl⟩ := quoted
    rw [text, ← List.cons_append, List.getLast?_concat] at last
    cases last
  · exact formed.carriage_notMem (fun body same => quoted ⟨body, same⟩) (List.mem_of_getLast? last)

theorem Lexeme.WellFormed.unpair {l : Lexeme} (formed : l.WellFormed) : l.unpair.WellFormed := by
  cases formed with
  | @quoted body noQuote =>
    refine .quoted fun mem => noQuote ?_
    rw [← unpairBefore_nil] at mem
    exact (unpairBefore_sublist body []).subset mem
  | mark => exact .mark
  | whole isDigits => exact .whole isDigits
  | decimal isDigits isFraction => exact .decimal isDigits isFraction
  | word first all => exact .word first all

/-- What is left of the text of a lexeme, wherever it stands, is the text of what is left of it. -/
theorem Lexeme.WellFormed.text_unpair {l : Lexeme} (formed : l.WellFormed) (after : List Char) :
    l.unpair.text = unpairBefore after l.text := by
  cases l with
  | quoted body =>
    have parted : Parted body (['"'] ++ after) := fun _ newline => nomatch newline
    show '"' :: (LoxScan.unpair body ++ ['"']) = '"' :: unpairBefore after (body ++ ['"'])
    rw [unpairBefore_append, unpairBefore_of_parted parted]
    rfl
  | mark => exact (unpairBefore_of_notMem (formed.carriage_notMem nofun)).symm
  | number => exact (unpairBefore_of_notMem (formed.carriage_notMem nofun)).symm
  | word => exact (unpairBefore_of_notMem (formed.carriage_notMem nofun)).symm

theorem Lexeme.kind_unpair (l : Lexeme) : l.unpair.kind = l.kind := by
  cases l <;> rfl

theorem unpaired_ofList (text : List Char) :
    unpaired (String.ofList text) = String.ofList (unpair text) := by
  rw [unpaired, String.toList_ofList]

theorem Lexeme.literal?_unpair (l : Lexeme) :
    l.unpair.literal? = l.literal?.map Literal.unpaired := by
  cases l with
  | quoted body =>
    show some (Literal.text _) = some (Literal.text _)
    rw [unpaired_ofList]
  | mark => rfl
  | number => rfl
  | word => rfl

theorem Piece.StandsBefore.text_unpairBefore {piece : Piece} {rest : List Char}
    (stands : piece.StandsBefore rest) :
    (piece.unpairBefore rest).text = LoxScan.unpairBefore rest piece.text := by
  cases stands with
  | lexeme formed => exact formed.text_unpair rest
  | @stray c _ foreign =>
    refine (unpairBefore_of_notMem ?_).symm
    intro mem
    obtain rfl := List.mem_singleton.1 mem
    exact absurd foreign (by decide)
  | @openString body =>
    show '"' :: unpair body = LoxScan.unpairBefore [] ('"' :: body)
    rw [unpairBefore_nil, unpair_cons, if_neg fun begins => nomatch begins.1]
  | blank => rfl
  | line => rfl
  | block => rfl
  | unclosed => rfl

/-! ### In their places -/

/-- Taking a carriage return away closes no comment, for the newline behind it stays. -/
theorem noClosing_unpairBefore {body : List Char} (after : List Char) (goesOn : NoClosing body) :
    NoClosing (unpairBefore after body) := by
  induction body with
  | nil => exact noClosing_nil
  | cons c body ih =>
    obtain ⟨here, later⟩ := noClosing_cons.1 goesOn
    rw [unpairBefore]
    split
    · exact ih later
    · refine noClosing_cons.2 ⟨?_, ih later⟩
      rintro ⟨rfl, slash⟩
      exact here ⟨rfl, head?_of_unpairBefore (by decide) slash⟩

/-- What does not carry a lexeme on does not do so without its pairs. -/
theorem Lexeme.StopsBefore.unpair {l : Lexeme} {rest : List Char} (stops : l.StopsBefore rest) :
    l.StopsBefore (LoxScan.unpair rest) := by
  rcases unpair_cases rest with ⟨none, -⟩ | ⟨tail, newline⟩ | ⟨c, tail, rfl, same⟩
  · rw [none]
    exact l.stopsBefore_nil
  · rw [newline]
    exact l.stopsBefore_blank (by decide) tail
  · have fraction : StartsFraction (c :: LoxScan.unpair tail) → StartsFraction (c :: tail) := by
      rintro ⟨d, more, whole, isDigit⟩
      obtain ⟨rfl, later⟩ := List.cons.inj whole
      have noNewline : d ≠ '\n' := by
        rintro rfl
        cases isDigit
      rw [← unpairBefore_nil] at later
      have head : tail.head? = some d := head?_of_unpairBefore noNewline (by rw [later]; rfl)
      obtain ⟨others, rfl⟩ := List.head?_eq_some_iff.1 head
      exact ⟨d, others, rfl, isDigit⟩
    rw [same]
    cases l with
    | mark m => exact stops_cons.2 (stops_cons.1 stops)
    | quoted body => trivial
    | number whole digits =>
      exact ⟨stops_cons.2 (stops_cons.1 stops.1), fun none goesOn => stops.2 none (fraction goesOn)⟩
    | word letters => exact stops_cons.2 (stops_cons.1 stops)

/-- What is left of a piece stands before what is left of the rest.  Only of a carriage return that
is a piece of its own nothing may be left. -/
theorem Piece.StandsBefore.unpair {piece : Piece} {rest : List Char}
    (stands : piece.StandsBefore rest)
    (left : ¬ (piece = .trivia ['\r'] ∧ rest.head? = some '\n')) :
    (piece.unpairBefore rest).StandsBefore (LoxScan.unpair rest) := by
  cases stands with
  | @blank c _ blank =>
    have alone : LoxScan.unpairBefore rest [c] = [c] := by
      refine if_neg ?_
      rintro ⟨rfl, newline⟩
      exact left ⟨rfl, newline⟩
    rw [unpairBefore, alone]
    exact .blank blank
  | @line body _ noBreak stops =>
    refine .line (fun mem => noBreak ((unpairBefore_sublist body rest).subset mem)) ?_
    cases rest with
    | nil => exact stops
    | cons c rest =>
      obtain rfl : c = '\n' := by simpa [isInLine] using stops_cons.1 stops
      rw [unpair_cons, if_neg fun begins => nomatch begins.1]
      exact stops_cons.2 (by decide)
  | @block body _ goesOn =>
    have closing : LoxScan.unpairBefore rest ['*', '/'] = ['*', '/'] := rfl
    have inside := unpairBefore_append body ['*', '/'] rest
    rw [closing] at inside
    show (Piece.trivia
      ('/' :: '*' :: LoxScan.unpairBefore rest (body ++ ['*', '/']))).StandsBefore _
    rw [inside]
    exact .block (noClosing_unpairBefore _ goesOn)
  | unclosed goesOn => exact .unclosed (noClosing_unpairBefore [] goesOn)
  | lexeme formed stops =>
    refine .lexeme formed.unpair ?_
    cases formed with
    | quoted => trivial
    | mark => exact stops.unpair
    | whole => exact stops.unpair
    | decimal => exact stops.unpair
    | word => exact stops.unpair
  | stray foreign => exact .stray foreign
  | @openString body noQuote =>
    refine .openString fun mem => noQuote ?_
    rw [← unpairBefore_nil] at mem
    exact (unpairBefore_sublist body []).subset mem

/-- A piece that makes an item neither ends a pair that begins before it nor begins one that ends
behind it. -/
theorem Piece.parted_item {piece : Piece} {rest : List Char} (stands : piece.StandsBefore rest)
    (isItem : ∀ text, piece ≠ .trivia text) (before : List Char) :
    Parted before (piece.text ++ rest) ∧ Parted (before ++ piece.text) rest := by
  constructor
  · rintro - newline
    obtain ⟨others, whole⟩ := List.head?_eq_some_iff.1 newline
    have cut := cut_of_standsBefore stands whole
    rw [cut_blank (by decide)] at cut
    exact isItem _ (congrArg Prod.fst cut).symm
  · intro last newline
    rw [List.getLast?_append_of_ne_nil _ (text_ne_nil stands)] at last
    cases stands with
    | lexeme formed => exact formed.getLast?_ne_carriage last
    | stray foreign =>
      obtain rfl := Option.some.inj last
      exact absurd foreign (by decide)
    | openString => cases newline
    | blank => exact isItem _ rfl
    | line => exact isItem _ rfl
    | block => exact isItem _ rfl
    | unclosed => exact isItem _ rfl

/-- What a piece makes, in the source without its pairs, is what is left of the item of the
piece. -/
theorem Piece.StandsBefore.item?_unpairBefore {piece : Piece} {rest : List Char}
    (stands : piece.StandsBefore rest) (before : List Char) :
    (piece.unpairBefore rest).item?
        (Position.start.after (LoxScan.unpairBefore (piece.text ++ rest) before)) =
      (piece.item? (Position.start.after before)).map
        (Item.unpaired (before ++ (piece.text ++ rest))) := by
  by_cases isTrivia : ∃ text, piece = .trivia text
  · obtain ⟨text, rfl⟩ := isTrivia
    rfl
  have isItem : ∀ text, piece ≠ .trivia text := fun text same => isTrivia ⟨text, same⟩
  obtain ⟨here, behind⟩ := parted_item stands isItem before
  have start := Position.start_after_unpairBefore here
  have stop := Position.start_after_unpairBefore behind
  have whole := stands.text_unpairBefore
  rw [unpairBefore_append, ← whole, Position.after_append, List.append_assoc,
    Position.after_append] at stop
  have span : (Position.start.after (LoxScan.unpairBefore (piece.text ++ rest) before)).spanOf
      (piece.unpairBefore rest).text =
        ((Position.start.after before).spanOf piece.text).unpaired
          (before ++ (piece.text ++ rest)) := by
    rw [Position.spanOf, stop, start]
    rfl
  have line := congrArg Position.line start
  have lineBehind := congrArg Position.line stop
  cases piece with
  | trivia text => exact absurd rfl (isItem text)
  | lexeme l =>
    have left : l.unpair.text = LoxScan.unpair l.text := by
      rw [stands.wellFormed.text_unpair [], unpairBefore_nil]
    refine congrArg (some ∘ Item.token) ?_
    rw [Token.ofLexeme, Token.ofLexeme, Token.unpaired]
    refine Token.mk.injEq .. ▸ ⟨l.kind_unpair, ?_, l.literal?_unpair, line, span⟩
    rw [left, unpaired_ofList]
  | stray c =>
    refine congrArg (some ∘ Item.error) ?_
    exact congrArg₂ (ScanError.unexpectedChar c) line span
  | openString body =>
    refine congrArg (some ∘ Item.error) ?_
    exact congrArg₂ ScanError.unterminatedString lineBehind span

/-- The items of the source without its pairs, from a place on. -/
theorem itemsOf_unpair {row : List Piece} {text : List Char} (isRow : Piece.IsRow row text)
    (before : List Char) :
    itemsOf (Position.start.after (unpairBefore text before)) (Piece.pieces (unpair text)) =
      (itemsOf (Position.start.after before) row).map (Item.unpaired (before ++ text)) := by
  induction isRow generalizing before with
  | nil =>
    have parted : Parted before [] := by
      intro _ newline
      cases newline
    have place := Position.start_after_unpairBefore parted
    rw [unpair, Piece.pieces_nil, itemsOf, place]
    rfl
  | @cons piece row rest stands _ ih =>
    have later := ih (before ++ piece.text)
    rw [unpairBefore_append, List.append_assoc] at later
    by_cases pair : piece = .trivia ['\r'] ∧ rest.head? = some '\n'
    · obtain ⟨rfl, newline⟩ := pair
      have taken : unpairBefore rest ['\r'] = [] := if_pos ⟨rfl, newline⟩
      have left : unpair ('\r' :: rest) = unpair rest := by
        rw [unpair_cons, if_pos ⟨rfl, newline⟩]
      rw [Piece.text, taken, List.append_nil] at later
      rw [Piece.text, List.singleton_append, left, ← List.singleton_append, later,
        Position.after_append]
      rfl
    · rw [unpair_append, ← stands.text_unpairBefore, Piece.pieces_append (stands.unpair pair),
        itemsOf, itemsOf, stands.item?_unpairBefore, List.map_append, ← Position.after_append,
        ← Position.after_append, stands.text_unpairBefore, later]
      cases piece.item? (Position.start.after before) <;> rfl

/-! ## Whole sources -/

/-- What is said of errors does not tell where pairs were. -/
theorem map_ofError_unpaired (source : List Char) (file : Option String) (items : List Item) :
    ((items.map (Item.unpaired source)).filterMap Item.error?).map (Diagnostic.ofError file) =
      (items.filterMap Item.error?).map (Diagnostic.ofError file) := by
  induction items with
  | nil => rfl
  | cons item items ih =>
    cases item with
    | token t => exact ih
    | error e =>
      have same : Diagnostic.ofError file (e.unpaired source) = .ofError file e := by
        cases e <;> rfl
      show _ :: _ = _ :: _
      rw [same, ih]

/-- Without its pairs a source has the same items, one for one: their kinds, their errors with the
characters, their lines and their numbers are the same, their texts are without their pairs, and
each begins and ends earlier by the number of pairs before.  A carriage return alone stays where it
is, and the source is reported on in the same words and with the same status. -/
theorem scan_unpaired (source : String) (file : Option String) :
    scan (unpaired source) = (scan source).map (Item.unpaired source.toList) ∧
    (∀ before after, source.toList = before ++ '\r' :: after → after.head? ≠ some '\n' →
      (unpaired source).toList = unpair before ++ '\r' :: unpair after) ∧
    (Report.ofSource file (unpaired source)).diagnostics =
      (Report.ofSource file source).diagnostics ∧
    (Report.ofSource file (unpaired source)).status.code =
      (Report.ofSource file source).status.code := by
  have items : scan (unpaired source) = (scan source).map (Item.unpaired source.toList) := by
    rw [scan, unpaired, String.toList_ofList]
    exact itemsOf_unpair (Piece.pieces_eq_iff.1 rfl) []
  have told : (Report.ofSource file (unpaired source)).diagnostics =
      (Report.ofSource file source).diagnostics := by
    rw [Report.ofSource, Report.ofSource, tokenize, tokenize, items, map_ofError_unpaired]
  refine ⟨items, ?_, told, ?_⟩
  · intro before after split alone
    have parted : Parted before ('\r' :: after) := by
      intro _ newline
      cases newline
    rw [unpaired, String.toList_ofList, split, unpair_append, unpairBefore_of_parted parted,
      unpair_cons, if_neg fun begins => alone begins.2]
  · rw [Report.status, Report.status, Report.hadError, Report.hadError, told]

/-- The pair in the string goes out of its text, the two before an item go out of its place, and the
carriage return alone stays. -/
example : (scan "1\r\n\"\r\n\r\"\r@").map Item.span = [⟨0, 1⟩, ⟨3, 8⟩, ⟨9, 10⟩, ⟨10, 10⟩] ∧
    (scan "1\r\n\"\r\n\r\"\r@").map (fun item => (item.unpaired "1\r\n\"\r\n\r\"\r@".toList).span) =
      [⟨0, 1⟩, ⟨2, 6⟩, ⟨7, 8⟩, ⟨8, 8⟩] := by
  decide +kernel

end LoxScan
