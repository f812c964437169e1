/-
# `LoxScan.Text.Quoted` — texts between quotes

A quoted text stands between double quotes.  A quote and a backslash inside it
follow a backslash; a tab, a line end, a carriage return and a null have letters
of their own; every other character without a shape is given by its number.
-/
import LoxScan.Text.Unprintable

namespace LoxScan.Quoted

/-- A character as it stands between quotes. -/
def encodeChar (c : Char) : List Char :=
  match c with
  | '"' => ['\\', '"']
  | '\\' => ['\\', '\\']
  | '\t' => ['\\', 't']
  | '\n' => ['\\', 'n']
  | '\r' => ['\\', 'r']
  | '\x00' => ['\\', '0']
  | c => if isUnprintable c then ['\\', 'u', '{'] ++ Nat.toDigits 16 c.toNat ++ ['}'] else [c]

/-- A text between quotes. -/
def encode (text : String) : String :=
  String.ofList ('"' :: text.toList.flatMap encodeChar ++ ['"'])

end LoxScan.Quoted
