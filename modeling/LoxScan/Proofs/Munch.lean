/-
# `LoxScan.Proofs.Munch` — a scan takes the longest reading

Nothing in the grammar says how far a token goes; the scan always takes the
longest text that has a reading, and takes it as what the grammar says that it
is (`scan_longest`).  Where it reports an error instead, no text has a reading.

The proof goes through pieces.  Every reading at the front of a text runs into a
piece that stands there (`Spells.runsInto`, `Trivia.runsInto`): the text read is
grown by the characters that carry it on, which is a different matter for each
form.  Only one piece stands at the front of a text, so all readings end within
the piece that the scan cuts (`Matches.length_le`).
-/
import LoxScan.Proofs.Place

namespace LoxScan

/-! ## Lexemes and spellings -/

namespace Lexeme

theorem spells_word {c : Char} {letters : List Char} (first : isLetter c)
    (all : ∀ d ∈ letters, isWordChar d) :
    Spells (c :: letters) (Kind.ofWord (String.ofList (c :: letters))) none := by
  unfold Kind.ofWord
  cases found : Reserved.ofSpelling? (String.ofList (c :: letters)) with
  | none =>
    refine .identifier first all ?_
    intro word same
    have spelled : word.spelling = String.ofList (c :: letters) := by
      rw [← same, String.ofList_toList]
    rw [Reserved.ofSpelling?_eq_some_iff.2 spelled] at found
    cases found
  | some word =>
    have spelled := Reserved.ofSpelling?_eq_some_iff.1 found
    have whole : word.spelling.toList = c :: letters := by
      rw [spelled, String.toList_ofList]
    rw [← whole]
    exact .reserved word

/-- A well-formed lexeme spells a token of its kind and value. -/
theorem WellFormed.spells {l : Lexeme} (formed : l.WellFormed) :
    Spells l.text l.kind l.literal? := by
  cases formed with
  | @mark mark => exact .mark mark
  | quoted noQuote => exact .string noQuote
  | @whole digits isDigits =>
    rw [text, if_pos rfl, List.append_nil]
    exact .whole isDigits
  | decimal isDigits isFraction =>
    rw [text, if_neg isFraction.1]
    exact .decimal isDigits isFraction
  | word first all => exact spells_word first all

end Lexeme

/-- A reserved word is spelled as words are. -/
theorem Reserved.wellFormed (word : Reserved) :
    (Lexeme.word word.spelling.toList).WellFormed := by
  cases word <;> exact .word rfl (List.all_eq_true.1 rfl)

/-- Every spelling is the text of a well-formed lexeme, of the same kind and value. -/
theorem Spells.exists_lexeme {text : List Char} {kind : Kind} {value : Option Literal}
    (spells : Spells text kind value) :
    ∃ l : Lexeme, l.WellFormed ∧ l.text = text ∧ l.kind = kind ∧ l.literal? = value := by
  cases spells with
  | mark mark => exact ⟨.mark mark, .mark, rfl, rfl, rfl⟩
  | @string body noQuote => exact ⟨.quoted body, .quoted noQuote, rfl, rfl, rfl⟩
  | whole isDigits => exact ⟨.number text [], .whole isDigits, List.append_nil text, rfl, rfl⟩
  | @decimal whole fraction isDigits isFraction =>
    refine ⟨.number whole fraction, .decimal isDigits isFraction, ?_, rfl, rfl⟩
    rw [Lexeme.text, if_neg isFraction.1]
  | reserved word =>
    refine ⟨.word word.spelling.toList, word.wellFormed, rfl, ?_, rfl⟩
    have found : Reserved.ofSpelling? word.spelling = some word :=
      Reserved.ofSpelling?_eq_some_iff.2 rfl
    rw [Lexeme.kind, String.ofList_toList, Kind.ofWord, found]
    rfl
  | @identifier c rest first all different =>
    refine ⟨.word (c :: rest), .word first all, rfl, ?_, rfl⟩
    cases found : Reserved.ofSpelling? (String.ofList (c :: rest)) with
    | none => rw [Lexeme.kind, Kind.ofWord, found]; rfl
    | some word =>
      have spelled := Reserved.ofSpelling?_eq_some_iff.1 found
      exact absurd (by rw [spelled, String.toList_ofList]) (different word)

/-! ## Every reading runs into a piece

Each lemma grows one form of text as far as what follows carries it on. -/

/-- A piece that is an error. -/
def Piece.isFault : Piece → Bool
  | .stray _ | .openString _ => true
  | _ => false

/-- A text, in front of `after`, is part of a piece that stands there and is no error. -/
def RunsInto (text after : List Char) : Prop :=
  ∃ (piece : Piece) (rest : List Char), piece.StandsBefore rest ∧
    piece.text ++ rest = text ++ after ∧ piece.isFault = false ∧ text.length ≤ piece.text.length

theorem runsInto_self {piece : Piece} {rest : List Char} (stands : piece.StandsBefore rest)
    (noFault : piece.isFault = false) : RunsInto piece.text rest :=
  ⟨piece, rest, stands, rfl, noFault, Nat.le_refl _⟩

theorem RunsInto.of_append {text after : List Char} (more : List Char)
    (runs : RunsInto (text ++ more) after) : RunsInto text (more ++ after) := by
  obtain ⟨piece, rest, stands, whole, noFault, long⟩ := runs
  refine ⟨piece, rest, stands, ?_, noFault, ?_⟩
  · rw [whole, List.append_assoc]
  · rw [List.length_append] at long
    exact Nat.le_trans (Nat.le_add_right _ _) long

theorem runsInto_word {c : Char} {letters : List Char} (first : isLetter c)
    (all : ∀ d ∈ letters, isWordChar d) (after : List Char) :
    RunsInto (c :: letters) after := by
  have more : ∀ d ∈ letters ++ after.takeWhile isWordChar, isWordChar d := by
    intro d mem
    rcases List.mem_append.1 mem with here | later
    · exact all d here
    · exact List.mem_takeWhile_imp later
  refine ⟨.lexeme (.word (c :: (letters ++ after.takeWhile isWordChar))),
    after.dropWhile isWordChar, .lexeme (.word first more) (stops_dropWhile _ _), ?_, rfl, ?_⟩
  · simp [Piece.text, Lexeme.text]
  · simp [Piece.text, Lexeme.text]

theorem IsDigits.append {digits more : List Char} (isDigits : IsDigits digits)
    (all : ∀ c ∈ more, c.isDigit) : IsDigits (digits ++ more) := by
  refine ⟨?_, List.forall_mem_append.2 ⟨isDigits.2, all⟩⟩
  intro none
  exact isDigits.1 (List.append_eq_nil_iff.1 none).1

theorem IsDigits.append_takeWhile {digits : List Char} (isDigits : IsDigits digits)
    (after : List Char) : IsDigits (digits ++ after.takeWhile Char.isDigit) :=
  isDigits.append fun _ mem => List.mem_takeWhile_imp mem

theorem runsInto_decimal {whole fraction : List Char} (isDigits : IsDigits whole)
    (isFraction : IsDigits fraction) (after : List Char) :
    RunsInto (whole ++ '.' :: fraction) after := by
  have more := isFraction.append_takeWhile after
  refine ⟨.lexeme (.number whole (fraction ++ after.takeWhile Char.isDigit)),
    after.dropWhile Char.isDigit,
    .lexeme (.decimal isDigits more) ⟨stops_dropWhile _ _, fun none => absurd none more.1⟩,
    ?_, rfl, ?_⟩
  · simp [Piece.text, Lexeme.text, isFraction.1]
  · simp [Piece.text, Lexeme.text, isFraction.1]

/-- Digits run on through more digits, and then through a fraction if there is one. -/
theorem runsInto_whole {digits : List Char} (isDigits : IsDigits digits) (after : List Char) :
    RunsInto digits after := by
  have more := isDigits.append_takeWhile after
  have split := List.takeWhile_append_dropWhile (p := Char.isDigit) (l := after)
  by_cases fraction : StartsFraction (after.dropWhile Char.isDigit)
  · obtain ⟨d, tail, found, first⟩ := fraction
    have isFraction : IsDigits ([d] ++ tail.takeWhile Char.isDigit) :=
      IsDigits.append_takeWhile ⟨List.cons_ne_nil _ _, by simpa using first⟩ tail
    refine ⟨.lexeme (.number _ _), tail.dropWhile Char.isDigit,
      .lexeme (.decimal more isFraction)
        ⟨stops_dropWhile _ _, fun none => absurd none isFraction.1⟩, ?_, rfl, ?_⟩
    · rw [found] at split
      conv => rhs; rw [← split]
      simp [Piece.text, Lexeme.text]
    · simp [Piece.text, Lexeme.text]
  · refine ⟨.lexeme (.number _ []), after.dropWhile Char.isDigit,
      .lexeme (.whole more) ⟨stops_dropWhile _ _, fun _ => fraction⟩, ?_, rfl, ?_⟩
    · rw [Piece.text, Lexeme.text, if_pos rfl, List.append_nil, List.append_assoc, split]
    · simp [Piece.text, Lexeme.text]

theorem runsInto_line {body : List Char} (noBreak : '\n' ∉ body) (after : List Char) :
    RunsInto ('/' :: '/' :: body) after := by
  have more : '\n' ∉ body ++ after.takeWhile Piece.isInLine := by
    intro mem
    rcases List.mem_append.1 mem with here | later
    · exact noBreak here
    · exact absurd (List.mem_takeWhile_imp later) (by decide)
  refine ⟨.trivia ('/' :: '/' :: (body ++ after.takeWhile Piece.isInLine)),
    after.dropWhile Piece.isInLine, .line more (stops_dropWhile _ _), ?_, rfl, ?_⟩
  · simp [Piece.text]
  · simp [Piece.text]

/-- What opens a comment is in one, closed or not. -/
theorem runsInto_blockOpening (after : List Char) : RunsInto ['/', '*'] after := by
  rcases Piece.exists_closing after with goesOn | ⟨body, rest, goesOn, rfl⟩
  · exact ⟨.trivia ('/' :: '*' :: after), [], .unclosed goesOn, by simp [Piece.text], rfl,
      by simp [Piece.text]⟩
  · exact ⟨.trivia ('/' :: '*' :: (body ++ ['*', '/'])), rest, .block goesOn,
      by simp [Piece.text], rfl, by simp [Piece.text]⟩

/-- A mark runs into itself, unless what follows joins it to another mark or opens a comment. -/
theorem runsInto_mark (mark : Mark) (after : List Char) : RunsInto mark.spelling.toList after := by
  have self : ∀ {mark : Mark} {after : List Char}, Stops mark.grows after →
      RunsInto mark.spelling.toList after := by
    intro mark after stops
    exact runsInto_self (.lexeme .mark stops) rfl
  by_cases stops : Stops mark.grows after
  · exact self stops
  · obtain ⟨c, rest, rfl, grows⟩ : ∃ c rest, after = c :: rest ∧ mark.grows c := by
      cases after with
      | nil => exact absurd (stops_nil _) stops
      | cons c rest => exact ⟨c, rest, rfl, by simpa using mt stops_cons.2 stops⟩
    -- a joined mark is the last of its kind: nothing grows it any further
    have joined : ∀ other : Mark, (∀ d, other.grows d = false) →
        RunsInto other.spelling.toList rest := by
      intro other final
      exact self fun d _ => final d
    cases mark with
    | bang =>
      obtain rfl := beq_iff_eq.1 grows
      exact RunsInto.of_append ['='] (joined .bangEqual fun _ => rfl)
    | equal =>
      obtain rfl := beq_iff_eq.1 grows
      exact RunsInto.of_append ['='] (joined .equalEqual fun _ => rfl)
    | less =>
      obtain rfl := beq_iff_eq.1 grows
      exact RunsInto.of_append ['='] (joined .lessEqual fun _ => rfl)
    | greater =>
      obtain rfl := beq_iff_eq.1 grows
      exact RunsInto.of_append ['='] (joined .greaterEqual fun _ => rfl)
    | slash =>
      rcases Bool.or_eq_true_iff.1 grows with line | block
      · obtain rfl := beq_iff_eq.1 line
        exact RunsInto.of_append ['/'] (runsInto_line List.not_mem_nil rest)
      · obtain rfl := beq_iff_eq.1 block
        exact RunsInto.of_append ['*'] (runsInto_blockOpening rest)
    | _ => cases grows

theorem Spells.runsInto {text : List Char} {kind : Kind} {value : Option Literal}
    (spells : Spells text kind value) (after : List Char) : RunsInto text after := by
  cases spells with
  | mark mark => exact runsInto_mark mark after
  | string noQuote => exact runsInto_self (.lexeme (.quoted noQuote) trivial) rfl
  | whole isDigits => exact runsInto_whole isDigits after
  | decimal isDigits isFraction => exact runsInto_decimal isDigits isFraction after
  | reserved word =>
    have formed := word.wellFormed
    generalize word.spelling.toList = letters at formed
    cases formed with
    | word first all => exact runsInto_word first all after
  | identifier first all _ => exact runsInto_word first all after

theorem Trivia.runsInto {text after : List Char} (passed : Trivia text after) :
    RunsInto text after := by
  cases passed with
  | blank blank => exact runsInto_self (.blank blank) rfl
  | line noBreak => exact runsInto_line noBreak after
  | block goesOn => exact runsInto_self (.block goesOn) rfl
  | unclosed goesOn => exact runsInto_self (.unclosed goesOn) rfl

/-! ## The longest reading -/

/-- Where a piece stands, no reading goes on behind it; and where an error stands there is none. -/
theorem Matches.length_le {text after rest : List Char} {piece : Piece}
    (reads : Matches text after) (stands : piece.StandsBefore rest)
    (same : piece.text ++ rest = text ++ after) :
    piece.isFault = false ∧ text.length ≤ piece.text.length := by
  obtain ⟨other, left, standsOther, whole, noFault, long⟩ : RunsInto text after := by
    rcases reads with ⟨kind, value, spells⟩ | passed
    · exact spells.runsInto after
    · exact passed.runsInto
  have pieces := Piece.pieces_append stands
  rw [same, ← whole, Piece.pieces_append standsOther] at pieces
  obtain ⟨rfl, -⟩ := List.cons.inj pieces
  exact ⟨noFault, long⟩

/-- No text with a reading, at the front of `taken ++ rest`, is longer than `taken`. -/
def Longest (taken rest : List Char) : Prop :=
  ∀ text after, taken ++ rest = text ++ after → Matches text after → text.length ≤ taken.length

/-- No text at the front of another has a reading. -/
def Unreadable (whole : List Char) : Prop :=
  ∀ text after, whole = text ++ after → ¬ Matches text after

/-- Where white space or a comment can be read, the piece that stands is of that kind. -/
theorem Trivia.not_lexeme {text after rest : List Char} {l : Lexeme} (passed : Trivia text after)
    (stands : (Piece.lexeme l).StandsBefore rest) (same : l.text ++ rest = text ++ after) :
    False := by
  obtain ⟨c, others, body, left, whole, found⟩ :
      ∃ c others body left, text ++ after = c :: others ∧
        Piece.cut c others = (.trivia body, left) := by
    cases passed with
    | blank blank => exact ⟨_, _, _, _, rfl, Piece.cut_blank blank _⟩
    | line => exact ⟨_, _, _, _, rfl, rfl⟩
    | block => exact ⟨_, _, _, _, rfl, rfl⟩
    | unclosed => exact ⟨_, _, _, _, rfl, rfl⟩
  rw [Piece.cut_of_standsBefore stands (same.trans whole)] at found
  cases found

/-- A well-formed lexeme is known by its text: it is the one piece of it. -/
theorem Lexeme.WellFormed.eq_of_text_eq {l l' : Lexeme} (formed : l.WellFormed)
    (formed' : l'.WellFormed) (same : l.text = l'.text) : l = l' := by
  have pieces := Piece.pieces_append (.lexeme formed l.stopsBefore_nil)
  rw [Piece.text, same, ← Piece.text, Piece.pieces_append (.lexeme formed' l'.stopsBefore_nil)]
    at pieces
  cases pieces
  rfl

/-- A text spells at most one token. -/
theorem Spells.unique {text : List Char} {kind kind' : Kind} {value value' : Option Literal}
    (one : Spells text kind value) (other : Spells text kind' value') :
    kind = kind' ∧ value = value' := by
  obtain ⟨l, formed, rfl, rfl, rfl⟩ := one.exists_lexeme
  obtain ⟨l', formed', same, rfl, rfl⟩ := other.exists_lexeme
  obtain rfl := formed'.eq_of_text_eq formed same
  exact ⟨rfl, rfl⟩

/-- What an item says of the text that it takes, in front of `rest`.  A token is the longest text
with a reading, and has the kind and the value of that reading, which is the only one.  Errors are
where there is none: at a foreign character, or at a quote that no other one follows. -/
def Item.Reads (text rest : List Char) : Item → Prop
  | .token t => t.lexeme.toList = text ∧ Longest text rest ∧
      (∀ kind value, Spells text kind value ↔ kind = t.kind ∧ value = t.literal) ∧
      ¬ Trivia text rest
  | .error (.unexpectedChar c _ _) => text = [c] ∧ Foreign c ∧ Unreadable (text ++ rest)
  | .error (.unterminatedString _ _) => (∃ body, '"' ∉ body ∧ text = '"' :: body) ∧ rest = [] ∧
      Unreadable (text ++ rest)

theorem Piece.StandsBefore.unreadable {piece : Piece} {rest : List Char}
    (stands : piece.StandsBefore rest) (fault : piece.isFault = true) :
    Unreadable (piece.text ++ rest) := by
  intro text after same reads
  have noFault := (reads.length_le stands same).1
  rw [fault] at noFault
  cases noFault

/-- The item that is made from a piece reads the text of that piece. -/
theorem Piece.StandsBefore.reads {piece : Piece} {rest : List Char} {p : Position} {item : Item}
    (stands : piece.StandsBefore rest) (made : piece.item? p = some item) :
    item.Reads piece.text rest := by
  cases stands with
  | @lexeme l _ formed stops =>
    cases made
    have stands : (Piece.lexeme l).StandsBefore rest := .lexeme formed stops
    refine ⟨String.toList_ofList, ?_, ?_, ?_⟩
    · intro text after same reads
      exact (reads.length_le stands same).2
    · intro kind value
      constructor
      · intro spells
        exact spells.unique formed.spells
      · rintro ⟨rfl, rfl⟩
        exact formed.spells
    · intro passed
      exact passed.not_lexeme stands rfl
  | stray foreign =>
    cases made
    exact ⟨rfl, foreign, (StandsBefore.stray foreign).unreadable rfl⟩
  | @openString body noQuote =>
    cases made
    exact ⟨⟨body, noQuote, rfl⟩, rfl, (StandsBefore.openString noQuote).unreadable rfl⟩
  | blank => cases made
  | line => cases made
  | block => cases made
  | unclosed => cases made

/-- Every item but the last takes a text of the source: a token the longest one that the grammar
has a reading for there, an error one where it has no reading at all. -/
theorem scan_longest (source : String) :
    ∃ items e, scan source = items ++ [.token e] ∧ e.kind = .eof ∧
      ∀ item ∈ items, ∃ before text rest, source.toList = before ++ (text ++ rest) ∧
        item.span = ⟨byteLength before, byteLength (before ++ text)⟩ ∧ item.Reads text rest := by
  refine ⟨_, _, scan_eq_append source, rfl, ?_⟩
  intro item mem
  obtain ⟨before, piece, rest, split, stands, made⟩ := exists_piece_of_mem mem
  refine ⟨before, piece.text, rest, split, ?_, stands.reads made⟩
  rw [Piece.span_item made, Position.start_after, byteLength_append]
  rfl

end LoxScan
