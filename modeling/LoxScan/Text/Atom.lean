/-
# `LoxScan.Text.Atom` — characters with the marks that stand on them

Where a line may end, a character and the marks behind it are one.  A mark that has
no character to stand on, because it is first or a line end or a space is before it,
counts as a Latin letter.  A joiner is a mark as well, and an atom knows whether one
comes last, because a joiner also holds what follows it.
-/
import LoxScan.Text.BreakClass
import LoxScan.Text.EastAsian

namespace LoxScan

namespace BreakClass

/-- Whether a character of this class ends its line whatever follows. -/
def isLineEnd (k : BreakClass) : Bool :=
  [mandatory, carriageReturn, lineFeed, nextLine].contains k

/-- Whether a character of this class is a mark on the one before it. -/
def isMark (k : BreakClass) : Bool :=
  k == mark || k == joiner

/-- Whether a mark may stand on a character of this class. -/
def carriesMarks (k : BreakClass) : Bool :=
  !(k.isLineEnd || k == space || k == zeroWidthSpace)

end BreakClass

/-- A character with its marks: its class, whether it belongs to the East Asian scripts, how many
marks it has, and whether a joiner is the last character. -/
structure Atom where
  kind : BreakClass
  eastAsian : Bool
  marks : Nat
  joined : Bool

namespace Atom

open BreakClass

/-- The atom of a character without marks on it. -/
def ofChar (c : Char) : Atom :=
  let kind := BreakClass.ofChar c
  if kind.isMark then ⟨letter, false, 0, kind == joiner⟩ else ⟨kind, isEastAsian c, 0, false⟩

@[simp] theorem marks_ofChar (c : Char) : (ofChar c).marks = 0 := by
  simp only [ofChar]
  split <;> rfl

/-- An atom with one more mark. -/
def marked (a : Atom) (kind : BreakClass) : Atom :=
  ⟨a.kind, a.eastAsian, a.marks + 1, kind == joiner⟩

/-- The atoms of a text behind one that may still get marks. -/
def following (a : Atom) : List Char → List Atom
  | [] => [a]
  | c :: rest =>
    if (BreakClass.ofChar c).isMark && a.kind.carriesMarks then
      following (a.marked (BreakClass.ofChar c)) rest
    else a :: following (ofChar c) rest

/-- The atoms of a text. -/
def ofText : List Char → List Atom
  | [] => []
  | c :: rest => following (ofChar c) rest

/-- How many characters some atoms are. -/
def length : List Atom → Nat
  | [] => 0
  | a :: atoms => a.marks + 1 + length atoms

theorem length_following (a : Atom) (text : List Char) :
    length (following a text) = a.marks + 1 + text.length := by
  induction text generalizing a with
  | nil => simp [following, length]
  | cons c rest ih =>
    unfold following
    split
    · simp only [ih, marked, List.length_cons]
      omega
    · simp only [length, ih, marks_ofChar, List.length_cons]
      omega

theorem length_ofText (text : List Char) : length (ofText text) = text.length := by
  cases text with
  | nil => rfl
  | cons c rest =>
    simp only [ofText, length_following, marks_ofChar, List.length_cons]
    omega

end Atom

end LoxScan
