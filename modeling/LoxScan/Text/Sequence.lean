/-
# `LoxScan.Text.Sequence` — the control sequences in a text

A terminal takes an escape and what follows it for a command and shows nothing of
it.  A command behind an opening bracket ends with a letter or a sign of that
range; behind a closing bracket it is a title, which ends with a bell or with an
escape and a backslash; any other is a single character.  A command that does not
end reaches to the end of the text.
-/

namespace LoxScan.Sequence

/-- Where a character stands: in the text, just behind an escape, or inside a command. -/
inductive Place where
  | plain
  | escape
  | command
  | title (last : Char)
deriving DecidableEq

/-- The place behind a character. -/
def Place.next (p : Place) (c : Char) : Place :=
  match p with
  | plain => if c = '\x1b' then escape else plain
  | escape => if c = '[' then command else if c = ']' then title c else plain
  | command => if '@' ≤ c ∧ c ≤ '~' then plain else command
  | title last => if c = '\x07' ∨ (c = '\\' ∧ last = '\x1b') then plain else title c

/-- The characters behind a place, and for each whether it is shown. -/
def shownFrom (p : Place) : List Char → List (Char × Bool)
  | [] => []
  | c :: rest => (c, p == .plain && c != '\x1b') :: shownFrom (p.next c) rest

/-- The characters of a text, and for each whether it is shown. -/
def shown (text : List Char) : List (Char × Bool) :=
  shownFrom .plain text

theorem map_fst_shownFrom (p : Place) (text : List Char) :
    (shownFrom p text).map (·.1) = text := by
  induction text generalizing p with
  | nil => rfl
  | cons c rest ih => simp [shownFrom, ih]

end LoxScan.Sequence
