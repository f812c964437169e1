/-
# `LoxScan.Text.Plain` — texts without what a terminal would obey

A terminal reads an escape and what follows it as a command.  A plain text is what
is left when the commands are taken out, and the controls that are not blanks with
them.  How a command ends depends on how it begins; a cancelling control ends each,
and an escape ends each and begins another.  A command that carries a payload is
also ended by the byte 9C, wherever a character is written with it.

A blank in the middle of a command that carries no payload is kept, and what follows
it is read as text up to the next character that is none; then the command goes on,
unless a character beyond ASCII was among the text.
-/

namespace LoxScan.Plain

/-! ## Commands -/

/-- What a terminal is in the middle of: a text, the head of a command, a command with a payload
before or in it, or the title of a window. -/
inductive Mode where
  | text
  | escape
  | intermediate
  | control
  | device
  | deviceParameter
  | deviceIntermediate
  | payload
  | title
deriving DecidableEq

/-- Whether the number of a character is in a range, both ends included. -/
def isFrom (first last : Nat) (c : Char) : Bool :=
  first ≤ c.toNat && c.toNat ≤ last

/-- Whether a character is written with the byte 9C. -/
def hasStringEnd (c : Char) : Bool :=
  (String.singleton c).toUTF8.toList.contains 0x9c

/-- The mode behind an escape and one more character. -/
def Mode.behindEscape (c : Char) : Mode :=
  if c = '[' then control
  else if c = ']' then title
  else if c = 'P' then device
  else if ['X', '^', '_'].contains c then payload
  else if isFrom 0x20 0x2f c then intermediate
  else if isFrom 0x30 0x7e c then text
  else escape

/-- The mode behind one more character of the head of a device command. -/
def Mode.inDevice (m : Mode) (c : Char) : Mode :=
  if isFrom 0x40 0x7e c || c = ':' then payload
  else if isFrom 0x20 0x2f c then deviceIntermediate
  else if isFrom 0x3c 0x3f c && m == deviceParameter then payload
  else if isFrom 0x30 0x3f c then (if m == deviceIntermediate then payload else deviceParameter)
  else m

/-- The mode behind a character that is not kept. -/
def Mode.next (m : Mode) (c : Char) : Mode :=
  if c = '\x1b' then escape
  else if c = '\x18' ∨ c = '\x1a' then text
  else
    match m with
    | text => text
    | escape => behindEscape c
    | intermediate => if isFrom 0x30 0x7e c then text else m
    | control => if isFrom 0x40 0x7e c then text else m
    | device | deviceParameter | deviceIntermediate => m.inDevice c
    | payload => if hasStringEnd c then text else m
    | title => if c = '\x07' then text else m

/-! ## Texts -/

/-- Whether a character is a blank that stands among the controls. -/
def isBlankControl (c : Char) : Bool :=
  ['\t', '\n', '\x0c', '\r'].contains c

/-- Whether a character is kept in a text. -/
def isKept (c : Char) : Bool :=
  isFrom 0x20 0x7e c || isBlankControl c || 0x80 ≤ c.toNat

/-- Whether a blank among the controls is kept in the middle of a command. -/
def Mode.keepsBlanks (m : Mode) : Bool :=
  [escape, intermediate, control].contains m

/-- What is kept of a text that begins in a mode; `reading` says whether text is read although the
mode is that of a command. -/
def keptFrom (m : Mode) (reading : Bool) : List Char → List Char
  | [] => []
  | c :: rest =>
    if isKept c && (reading || m == .text) then
      c :: keptFrom (if 0x80 ≤ c.toNat then .text else m) true rest
    else if isBlankControl c && m.keepsBlanks then c :: keptFrom m true rest
    else keptFrom (m.next c) false rest

/-- What is kept of a text. -/
def ofText (text : String) : String :=
  String.ofList (keptFrom .text true text.toList)

end LoxScan.Plain
