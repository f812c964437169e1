/-
# `LoxScan.Input` — raw input: its lines and its text

An input is cut into lines at its line ends, which are a newline or a carriage
return with a newline behind it.  The end of the input ends a line that has at
least one unit, and a carriage return before it is part of that line.  The cut
is the same for characters and for bytes, because neither end of a line is a
byte of any other character.
-/

namespace LoxScan

/-- The lines of an input, given the units that are the newline and the carriage return. -/
def linesBy {α : Type} [DecidableEq α] (newline carriage : α) : List α → List (List α)
  | [] => []
  | x :: rest =>
    if x = newline then [] :: linesBy newline carriage rest
    else if x = carriage ∧ rest.head? = some newline then linesBy newline carriage rest
    else
      match linesBy newline carriage rest with
      | [] => [[x]]
      | line :: lines => (x :: line) :: lines

/-- The lines of a text. -/
def textLines (text : List Char) : List (List Char) :=
  linesBy '\n' '\r' text

/-- The lines of raw input. -/
def byteLines (input : List UInt8) : List (List UInt8) :=
  linesBy 0x0a 0x0d input

/-- The text that bytes are the UTF-8 form of, if they are one. -/
def decode? (bytes : List UInt8) : Option String :=
  String.fromUTF8? ⟨bytes.toArray⟩

end LoxScan
