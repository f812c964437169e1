/-
# `LoxScan.Scan` — the items of a text

The pieces of a text decide its items: a lexeme is a token, a stray character
and an open string are errors, and trivia is nothing.  All that passes from one
piece to the next is the position, so the items of the rest of a text are the
items of that rest, moved.  The last item is the token of the end of the text.
-/
import LoxScan.Item
import LoxScan.Piece

namespace LoxScan

/-- The item of a piece that begins at `p`.  An open string is reported at the line where the text
ends. -/
def Piece.item? (p : Position) : Piece → Option Item
  | .trivia _ => none
  | .lexeme l => some (.token (.ofLexeme p l))
  | .stray c => some (.error (.unexpectedChar c p.line (p.spanOf [c])))
  | .openString body =>
    let text := (Piece.openString body).text
    some (.error (.unterminatedString (p.after text).line (p.spanOf text)))

/-- The items of pieces of which the first begins at `p`. -/
def itemsOf (p : Position) : List Piece → List Item
  | [] => [.token (.eof p)]
  | piece :: rest => (piece.item? p).toList ++ itemsOf (p.after piece.text) rest

/-- The items of a text, in the order of the text. -/
def scan (source : String) : List Item :=
  itemsOf .start (Piece.pieces source.toList)

/-- The tokens and the errors of a text, each in the order of the text. -/
def tokenize (source : String) : List Token × List ScanError :=
  ((scan source).filterMap Item.token?, (scan source).filterMap Item.error?)

end LoxScan
