/-
# `LoxScan.Kind` — the kinds of token, their names and their fixed spellings

There are thirty-nine kinds.  A mark or a reserved word is always written the
same way, so its kind fixes its spelling; the text of an identifier, a string or
a number varies, and the end of the text has none.  Marks and reserved words are
types of their own, which is why `Mark.spelling` and `Reserved.spelling` are
total.
-/

namespace LoxScan

/-! ## Marks -/

/-- Punctuation and operators. -/
inductive Mark where
  | leftParen | rightParen | leftBrace | rightBrace
  | comma | dot | minus | plus | semicolon | slash | star
  | bang | bangEqual | equal | equalEqual | greater | greaterEqual | less | lessEqual
deriving DecidableEq

namespace Mark

/-- Every mark once. -/
def all : List Mark :=
  [leftParen, rightParen, leftBrace, rightBrace, comma, dot, minus, plus, semicolon, slash, star,
   bang, bangEqual, equal, equalEqual, greater, greaterEqual, less, lessEqual]

/-- The text a mark is written with. -/
def spelling : Mark → String
  | leftParen => "("
  | rightParen => ")"
  | leftBrace => "\x7b"
  | rightBrace => "\x7d"
  | comma => ","
  | dot => "."
  | minus => "-"
  | plus => "+"
  | semicolon => ";"
  | slash => "/"
  | star => "*"
  | bang => "!"
  | bangEqual => "!="
  | equal => "="
  | equalEqual => "=="
  | greater => ">"
  | greaterEqual => ">="
  | less => "<"
  | lessEqual => "<="

/-- The name a mark is shown by. -/
def name : Mark → String
  | leftParen => "LEFT_PAREN"
  | rightParen => "RIGHT_PAREN"
  | leftBrace => "LEFT_BRACE"
  | rightBrace => "RIGHT_BRACE"
  | comma => "COMMA"
  | dot => "DOT"
  | minus => "MINUS"
  | plus => "PLUS"
  | semicolon => "SEMICOLON"
  | slash => "SLASH"
  | star => "STAR"
  | bang => "BANG"
  | bangEqual => "BANG_EQUAL"
  | equal => "EQUAL"
  | equalEqual => "EQUAL_EQUAL"
  | greater => "GREATER"
  | greaterEqual => "GREATER_EQUAL"
  | less => "LESS"
  | lessEqual => "LESS_EQUAL"

theorem mem_all (mark : Mark) : mark ∈ all := by
  cases mark <;> decide

/-- A mark is written with at least one character. -/
theorem spelling_ne_empty (mark : Mark) : mark.spelling ≠ "" := by
  cases mark <;> decide

end Mark

/-! ## Reserved words -/

/-- The words that no identifier may be. -/
inductive Reserved where
  | and | «class» | «else» | false | «for» | «fun» | «if» | nil
  | or | print | «return» | super | this | true | var | «while»
deriving DecidableEq

namespace Reserved

/-- Every reserved word once. -/
def all : List Reserved :=
  [.and, .class, .else, .false, .for, .fun, .if, .nil,
   .or, .print, .return, .super, .this, .true, .var, .while]

/-- The text a reserved word is written with. -/
def spelling : Reserved → String
  | .and => "and"
  | .class => "class"
  | .else => "else"
  | .false => "false"
  | .for => "for"
  | .fun => "fun"
  | .if => "if"
  | .nil => "nil"
  | .or => "or"
  | .print => "print"
  | .return => "return"
  | .super => "super"
  | .this => "this"
  | .true => "true"
  | .var => "var"
  | .while => "while"

/-- The name a reserved word is shown by. -/
def name : Reserved → String
  | .and => "AND"
  | .class => "CLASS"
  | .else => "ELSE"
  | .false => "FALSE"
  | .for => "FOR"
  | .fun => "FUN"
  | .if => "IF"
  | .nil => "NIL"
  | .or => "OR"
  | .print => "PRINT"
  | .return => "RETURN"
  | .super => "SUPER"
  | .this => "THIS"
  | .true => "TRUE"
  | .var => "VAR"
  | .while => "WHILE"

/-- The reserved word with a spelling, if there is one; letters count with their case. -/
def ofSpelling? (text : String) : Option Reserved :=
  all.find? (·.spelling == text)

theorem mem_all (word : Reserved) : word ∈ all := by
  cases word <;> decide

/-- No two reserved words are written alike. -/
theorem spelling_injective {one other : Reserved} (same : one.spelling = other.spelling) :
    one = other := by
  revert same
  cases one <;> cases other <;> decide

/-- The look-up finds a word exactly by its spelling. -/
theorem ofSpelling?_eq_some_iff {text : String} {word : Reserved} :
    ofSpelling? text = some word ↔ word.spelling = text := by
  constructor
  · intro found
    simpa using List.find?_some found
  · rintro rfl
    cases word <;> decide

end Reserved

/-! ## Kinds -/

/-- What a token is. -/
inductive Kind where
  | mark (mark : Mark)
  | reserved (word : Reserved)
  | identifier
  | string
  | number
  | eof
deriving DecidableEq

namespace Kind

/-- Every kind once. -/
def all : List Kind :=
  Mark.all.map mark ++ [identifier, string, number] ++ Reserved.all.map reserved ++ [eof]

/-- The name a kind is shown by. -/
def name : Kind → String
  | mark m => m.name
  | reserved word => word.name
  | identifier => "IDENTIFIER"
  | string => "STRING"
  | number => "NUMBER"
  | eof => "EOF"

/-- The kind shown by a name. -/
def ofName? (name : String) : Option Kind :=
  all.find? (·.name == name)

/-- The kind of a word: its own if it is reserved, and that of identifiers if it is not. -/
def ofWord (text : String) : Kind :=
  ((Reserved.ofSpelling? text).map reserved).getD identifier

/-- Whether a kind is that of a reserved word. -/
def isKeyword : Kind → Bool
  | reserved _ => true
  | _ => false

/-- Whether the tokens of a kind carry a value. -/
def isLiteral : Kind → Bool
  | string | number => true
  | _ => false

theorem mem_all (kind : Kind) : kind ∈ all := by
  cases kind with
  | mark m => simp [all, Mark.mem_all]
  | reserved word => simp [all, Reserved.mem_all]
  | _ => simp [all]

end Kind

end LoxScan
