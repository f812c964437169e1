/-
# `LoxScan.Item` — tokens and errors

A scan answers with items: tokens, and errors that take the place of a token.
Each knows its line and its span.  A token is an open record, whose fields need
not fit each other; the ones that a scan makes come from `Token.ofLexeme` and
`Token.eof`.
-/
import LoxScan.Lexeme
import LoxScan.Position

namespace LoxScan

/-! ## Tokens -/

/-- A token: its kind, its text, its value if it has one, its line, and the stretch of the source
that it takes. -/
structure Token where
  kind : Kind
  lexeme : String
  literal : Option Literal
  line : Nat
  span : Span
deriving DecidableEq

namespace Token

/-- The token of a lexeme that begins at `p`; its line is that of its first character. -/
def ofLexeme (p : Position) (l : Lexeme) : Token :=
  ⟨l.kind, String.ofList l.text, l.literal?, p.line, p.spanOf l.text⟩

/-- The token of the end of a text. -/
def eof (p : Position) : Token :=
  ⟨.eof, "", none, p.line, p.spanOf []⟩

/-- The name of the kind, the lexeme, and the value if there is one, with a space before each. -/
def display (t : Token) : String :=
  t.kind.name ++ " " ++ t.lexeme ++
    match t.literal with
    | none => ""
    | some value => " " ++ value.display

/-- Equality of all fields, where values are equal as values: no token whose value is no number
equals itself. -/
def equal (one other : Token) : Bool :=
  one.kind == other.kind && one.lexeme == other.lexeme
    && Literal.agree one.literal other.literal && one.line == other.line && one.span == other.span

end Token

/-! ## Errors -/

/-- What can be wrong with a text: a character of no piece of the language, or a string without a
closing quote. -/
inductive ScanError where
  | unexpectedChar (c : Char) (line : Nat) (span : Span)
  | unterminatedString (line : Nat) (span : Span)
deriving DecidableEq

namespace ScanError

/-- The text that an error is reported by. -/
def message : ScanError → String
  | unexpectedChar .. => "Unexpected character"
  | unterminatedString .. => "Unterminated string"

/-- The line that an error is reported at. -/
def line : ScanError → Nat
  | unexpectedChar _ line _ => line
  | unterminatedString line _ => line

/-- The stretch of the source that an error is about. -/
def span : ScanError → Span
  | unexpectedChar _ _ span => span
  | unterminatedString _ span => span

end ScanError

/-! ## Items -/

/-- One answer of a scan. -/
inductive Item where
  | token (token : Token)
  | error (error : ScanError)
deriving DecidableEq

namespace Item

/-- The token of an item that is one. -/
def token? : Item → Option Token
  | token t => some t
  | error _ => none

/-- The error of an item that is one. -/
def error? : Item → Option ScanError
  | token _ => none
  | error e => some e

/-- The line of an item. -/
def line : Item → Nat
  | token t => t.line
  | error e => e.line

/-- The stretch of the source that an item takes. -/
def span : Item → Span
  | token t => t.span
  | error e => e.span

end Item

end LoxScan
