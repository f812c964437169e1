/-
# `LoxScan.Proofs.Tokens` — the tokens that a scan makes

A token is an open record, but a scan makes only two sorts of them: the end of the
text, and the token of a lexeme of the language at some place (`Token.Scanned`).  What
is true of these two is true of every token of every scan.  The other way round, every
lexeme of the language is the one token of its own text (`scan_lexeme`).
-/
import LoxScan.Proofs.Tiling

namespace LoxScan

namespace Token

/-- The tokens that a scan makes: the end, and those of lexemes of the language. -/
inductive Scanned : Token → Prop
  | eof (p : Position) : Scanned (.eof p)
  | lexeme (p : Position) {l : Lexeme} : l.WellFormed → Scanned (.ofLexeme p l)

theorem scanned_of_mem {source : String} {t : Token} (mem : t ∈ (tokenize source).1) :
    t.Scanned := by
  obtain ⟨item, mem, isToken⟩ := List.mem_filterMap.1 mem
  rw [scan_eq_append] at mem
  rcases List.mem_append.1 mem with inside | last
  · obtain ⟨before, piece, rest, -, stands, made⟩ := exists_piece_of_mem inside
    cases item with
    | error e => cases isToken
    | token t =>
      cases isToken
      obtain ⟨l, rfl, rfl⟩ := Piece.exists_lexeme made
      exact .lexeme _ stands.wellFormed
  · obtain rfl := List.mem_singleton.1 last
    cases isToken
    exact .eof _

end Token

/-- A text that begins with a lexeme has its token first, and then what the rest has behind it. -/
theorem scan_lexeme_append {l : Lexeme} {rest : List Char} (formed : l.WellFormed)
    (stops : l.StopsBefore rest) :
    scan (.ofList (l.text ++ rest)) = .token (.ofLexeme .start l) ::
      itemsOf (Position.start.after l.text) (Piece.pieces rest) := by
  have pieces := Piece.pieces_append (Piece.StandsBefore.lexeme formed stops)
  rw [Piece.text] at pieces
  rw [scan, String.toList_ofList, pieces]
  rfl

/-- A lexeme alone is one token. -/
theorem scan_lexeme {l : Lexeme} (formed : l.WellFormed) :
    scan (.ofList l.text) =
      [.token (.ofLexeme .start l), .token (.eof (Position.start.after l.text))] := by
  have alone := scan_lexeme_append formed l.stopsBefore_nil
  rw [List.append_nil, Piece.pieces_nil] at alone
  exact alone

theorem tokens_lexeme {l : Lexeme} (formed : l.WellFormed) :
    (tokenize (.ofList l.text)).1 =
      [.ofLexeme .start l, .eof (Position.start.after l.text)] := by
  rw [tokenize, scan_lexeme formed]
  rfl

/-- Words are no numbers. -/
theorem Kind.ofWord_ne_number (text : String) : Kind.ofWord text ≠ .number := by
  unfold Kind.ofWord
  cases Reserved.ofSpelling? text with
  | none => exact Kind.noConfusion
  | some word => exact Kind.noConfusion

/-- The kind of a number is that of no other lexeme. -/
theorem Lexeme.exists_number {l : Lexeme} (isNumber : l.kind = .number) :
    ∃ whole fraction, l = .number whole fraction := by
  cases l with
  | mark m => cases isNumber
  | quoted body => cases isNumber
  | number whole fraction => exact ⟨whole, fraction, rfl⟩
  | word letters => exact absurd isNumber (Kind.ofWord_ne_number _)

/-- A scanned number is the token of digits at some place, with a fraction or without. -/
theorem Token.Scanned.exists_number {t : Token} (scanned : t.Scanned)
    (isNumber : t.kind = .number) :
    ∃ p whole fraction, (Lexeme.number whole fraction).WellFormed ∧
      t = .ofLexeme p (.number whole fraction) := by
  cases scanned with
  | eof p => cases isNumber
  | lexeme p formed =>
    obtain ⟨whole, fraction, rfl⟩ := Lexeme.exists_number isNumber
    exact ⟨p, whole, fraction, formed, rfl⟩

end LoxScan
