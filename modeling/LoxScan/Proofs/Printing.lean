/-
# `LoxScan.Proofs.Printing` — a scan reads back what was printed

A page is texts in a row, each of them the spelling of a token or one foreign
character, with something between them that begins with white space and goes on
with whatever may be passed over.  A scan of a page finds the texts, all of them
and nothing else, and the item of a text is fixed by that text and by what was
printed before it (`scan_page`).

White space behind a text is what keeps the scan from reading on: it carries no
lexeme on (`Lexeme.stopsBefore_blank`), so every text is a piece where it stands
(`Printed.exists_piece`).  A separator falls into pieces of trivia, whatever comes
after it (`itemsAlong_separator`), and leaves nothing behind but its bytes and
its line breaks.
-/
import LoxScan.Proofs.Munch

namespace LoxScan

/-! ## Pages -/

/-- White space, comments to the end of a line with that end, and closed comments, one after the
other. -/
inductive Separator : List Char → Prop
  | nil : Separator []
  | blank {c : Char} {rest : List Char} : isBlank c → Separator rest → Separator (c :: rest)
  | line {body rest : List Char} : '\n' ∉ body → Separator rest →
      Separator ('/' :: '/' :: (body ++ '\n' :: rest))
  | block {body rest : List Char} : NoClosing body → Separator rest →
      Separator ('/' :: '*' :: (body ++ '*' :: '/' :: rest))

/-- What a printed text says by itself: that it is a token of a kind and with a value, or that it
is one character of no token. -/
inductive Content where
  | token (kind : Kind) (value : Option Literal)
  | stray (c : Char)

/-- A text has a content. -/
inductive Prints : List Char → Content → Prop
  | token {text : List Char} {kind : Kind} {value : Option Literal} : Spells text kind value →
      Prints text (.token kind value)
  | stray {c : Char} : Foreign c → Prints [c] (.stray c)

/-- A printed text, and the separator behind it. -/
structure Printed where
  text : List Char
  content : Content
  gap : List Char
  prints : Prints text content
  separates : Separator gap
  startsBlank : ∃ c rest, gap = c :: rest ∧ isBlank c

namespace Printed

/-- The text of an entry with its separator. -/
def withGap (entry : Printed) : List Char :=
  entry.text ++ entry.gap

/-- The item that an entry is to be read as, with `before` printed before it. -/
def item (before : List Char) (entry : Printed) : Item :=
  let line := 1 + before.count '\n'
  let span : Span := ⟨byteLength before, byteLength before + byteLength entry.text⟩
  match entry.content with
  | .token kind value => .token ⟨kind, String.ofList entry.text, value, line, span⟩
  | .stray c => .error (.unexpectedChar c line span)

end Printed

/-- Entries in a row, with a separator before them. -/
structure Page where
  lead : List Char
  leads : Separator lead
  entries : List Printed

namespace Page

/-- What is printed of a page before the entry that follows `done`. -/
def textThrough (page : Page) (done : List Printed) : List Char :=
  page.lead ++ done.flatMap Printed.withGap

/-- The text of a page. -/
def text (page : Page) : List Char :=
  page.textThrough page.entries

end Page

/-! ## Entries are pieces -/

/-- An entry is a piece in its place, and the item of that piece is the one of the entry. -/
theorem Printed.exists_piece (entry : Printed) (before rest : List Char) :
    ∃ piece : Piece, piece.text = entry.text ∧ piece.StandsBefore (entry.gap ++ rest) ∧
      piece.item? (Position.start.after before) = some (entry.item before) := by
  obtain ⟨text, content, gap, prints, separates, c, tail, rfl, blank⟩ := entry
  cases prints with
  | token spells =>
    obtain ⟨l, formed, rfl, rfl, rfl⟩ := spells.exists_lexeme
    refine ⟨.lexeme l, rfl, .lexeme formed (l.stopsBefore_blank blank _), ?_⟩
    rw [Position.start_after]
    rfl
  | @stray c foreign =>
    refine ⟨.stray c, rfl, .stray foreign, ?_⟩
    rw [Position.start_after]
    rfl

/-! ## Separators are passed over -/

theorem itemsAlong_trivia {text rest : List Char} (p : Position)
    (stands : (Piece.trivia text).StandsBefore rest) :
    itemsAlong p (Piece.pieces (text ++ rest)) =
      itemsAlong (p.after text) (Piece.pieces rest) := by
  have cut := Piece.pieces_append stands
  rw [Piece.text] at cut
  rw [cut]
  rfl

theorem itemsAlong_separator {gap : List Char} (separates : Separator gap) (p : Position)
    (rest : List Char) :
    itemsAlong p (Piece.pieces (gap ++ rest)) = itemsAlong (p.after gap) (Piece.pieces rest) := by
  induction separates generalizing p with
  | nil => rfl
  | @blank c gap blank _ ih =>
    have stands : (Piece.trivia [c]).StandsBefore (gap ++ rest) := .blank blank
    have passed := itemsAlong_trivia p stands
    rw [ih, ← Position.after_append] at passed
    exact passed
  | @line body gap noBreak _ ih =>
    -- the line break is a piece of its own
    have stops : Stops Piece.isInLine ('\n' :: (gap ++ rest)) := stops_cons.2 (by decide)
    have ends : (Piece.trivia ['\n']).StandsBefore (gap ++ rest) := .blank (by decide)
    have passed := itemsAlong_trivia p (.line noBreak stops)
    have passedEnd := itemsAlong_trivia (p.after ('/' :: '/' :: body)) ends
    rw [ih, ← Position.after_append, ← Position.after_append] at passedEnd
    have shape : '/' :: '/' :: (body ++ '\n' :: gap) ++ rest =
        ('/' :: '/' :: body) ++ '\n' :: (gap ++ rest) := by simp
    rw [shape]
    refine passed.trans (passedEnd.trans ?_)
    simp
  | @block body gap goesOn _ ih =>
    have stands : (Piece.trivia ('/' :: '*' :: (body ++ ['*', '/']))).StandsBefore (gap ++ rest) :=
      .block goesOn
    have passed := itemsAlong_trivia p stands
    rw [ih, ← Position.after_append] at passed
    have shape : '/' :: '*' :: (body ++ '*' :: '/' :: gap) =
        ('/' :: '*' :: (body ++ ['*', '/'])) ++ gap := by simp
    rw [shape, List.append_assoc]
    exact passed

/-! ## Pages are read back -/

/-- The items that entries are to be read as, with `before` printed before the first. -/
def expected (before : List Char) : List Printed → List Item
  | [] => []
  | entry :: entries => entry.item before :: expected (before ++ entry.withGap) entries

theorem length_expected (before : List Char) (entries : List Printed) :
    (expected before entries).length = entries.length := by
  induction entries generalizing before with
  | nil => rfl
  | cons entry entries ih => rw [expected, List.length_cons, List.length_cons, ih]

theorem getElem?_expected (before : List Char) (done later : List Printed) (entry : Printed) :
    (expected before (done ++ entry :: later))[done.length]? =
      some (entry.item (before ++ done.flatMap Printed.withGap)) := by
  induction done generalizing before with
  | nil => simp [expected]
  | cons first done ih =>
    rw [List.cons_append, expected, List.length_cons, List.getElem?_cons_succ, ih,
      List.flatMap_cons, List.append_assoc]

theorem itemsAlong_entries (before : List Char) (entries : List Printed) :
    itemsAlong (Position.start.after before) (Piece.pieces (entries.flatMap Printed.withGap)) =
      expected before entries := by
  induction entries generalizing before with
  | nil => rw [List.flatMap_nil, Piece.pieces_nil]; rfl
  | cons entry entries ih =>
    obtain ⟨piece, same, stands, made⟩ :=
      entry.exists_piece before (entries.flatMap Printed.withGap)
    rw [List.flatMap_cons, Printed.withGap, List.append_assoc, ← same, Piece.pieces_append stands,
      itemsAlong, made, itemsAlong_separator entry.separates, expected, ← ih, Printed.withGap,
      ← Position.after_append, ← Position.after_append, same]
    rfl

/-- A scan of a page answers with one item for each entry, in their order, and with the token of
the end.  An item has the kind and the value that the entry has by itself, and the span and the
line that follow from the text before it. -/
theorem scan_page (page : Page) :
    ∃ items e, scan (String.ofList page.text) = items ++ [.token e] ∧ e.kind = .eof ∧
      items.length = page.entries.length ∧
      ∀ done entry later, page.entries = done ++ entry :: later →
        items[done.length]? = some (entry.item (page.textThrough done)) := by
  have items : itemsAlong .start (Piece.pieces page.text) = expected page.lead page.entries := by
    rw [Page.text, Page.textThrough, itemsAlong_separator page.leads, itemsAlong_entries]
  refine ⟨_, _, scan_eq_append _, rfl, ?_, ?_⟩
  · rw [String.toList_ofList, items, length_expected]
  · intro done entry later split
    rw [String.toList_ofList, items, split, getElem?_expected]
    rfl

end LoxScan
