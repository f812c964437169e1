/-
# `LoxScan.Text.Folded` — texts folded into lines of a width

A text is folded line by line.  A line is cut into words where Unicode lets a line
end, hyphens apart; a word may also be parted behind a hyphen between letters or
digits; and a part that is wider than a line is broken into chunks that fit.  The
fragments are then put on lines one after another, each on the line before it if it
fits there.  The spaces behind a fragment count for the next one and are dropped at
the end of a line.

Nothing is shown of control sequences, and they take no columns; each goes with the
character behind it.
-/
import LoxScan.Text.Alphanumeric
import LoxScan.Text.Break
import LoxScan.Text.Columns
import LoxScan.Text.Sequence

namespace LoxScan

/-! ## Cutting -/

/-- The runs of a list that is cut before each marked item. -/
def cutBefore {α : Type} : List (α × Bool) → List (List α)
  | [] => [[]]
  | (x, true) :: rest => [] :: (cutBefore rest).modifyHead (x :: ·)
  | (x, false) :: rest => (cutBefore rest).modifyHead (x :: ·)

@[simp] theorem flatten_modifyHead_cons {α : Type} (x : α) {runs : List (List α)} (h : runs ≠ []) :
    (runs.modifyHead (x :: ·)).flatten = x :: runs.flatten := by
  cases runs with
  | nil => exact absurd rfl h
  | cons run rest => rfl

theorem cutBefore_ne_nil {α : Type} (items : List (α × Bool)) : cutBefore items ≠ [] := by
  match items with
  | [] => simp [cutBefore]
  | (_, true) :: _ => simp [cutBefore]
  | (_, false) :: rest =>
    simpa [cutBefore] using cutBefore_ne_nil rest

/-- Nothing is lost by a cut. -/
theorem flatten_cutBefore {α : Type} (items : List (α × Bool)) :
    (cutBefore items).flatten = items.map (·.1) := by
  match items with
  | [] => rfl
  | (x, true) :: rest =>
    simp [cutBefore, cutBefore_ne_nil, flatten_cutBefore rest]
  | (x, false) :: rest =>
    simp [cutBefore, cutBefore_ne_nil, flatten_cutBefore rest]

/-- The columns that a text takes. -/
def columnsOf (text : List Char) : Nat :=
  (Sequence.shown text).foldl (fun used (c, shown) => if shown then used + columns c else used) 0

/-! ## Words -/

/-- A character with the control sequences before it. -/
abbrev Glyph := List Char

/-- The characters that are shown, each with what is not shown before it; what is not shown at the
end stands alone. -/
def glyphs : List (Char × Bool) → List Glyph
  | [] => []
  | (c, true) :: rest => [c] :: glyphs rest
  | (c, false) :: rest =>
    match glyphs rest with
    | [] => [[c]]
    | g :: gs => (c :: g) :: gs

/-- Whether a character is a hyphen, shown or not. -/
def isHyphen (c : Char) : Bool :=
  c == '-' || c == '\u00ad'

/-- Takes back the marks behind hyphens, given what stands before. -/
def exceptAfterHyphens (behindHyphen : Bool) : List (Char × Bool) → List Bool
  | [] => []
  | (c, m) :: rest => (m && !behindHyphen) :: exceptAfterHyphens (isHyphen c) rest

/-- Takes back the first mark. -/
def withoutFirst : List Bool → List Bool
  | [] => []
  | true :: rest => false :: rest
  | false :: rest => false :: withoutFirst rest

/-- For each character whether a word begins there.  The last place where a line may end is the
end of the text, and it makes no word; behind a hyphen, where it is no such place, the one before
it is lost. -/
def wordStarts (text : List Char) : List Bool :=
  let starts := exceptAfterHyphens false (text.zip (Break.places text))
  if text.getLast?.any isHyphen then (withoutFirst starts.reverse).reverse else starts

/-- The words of a line, with the spaces behind them. -/
def wordsOf (line : List Char) : List (List Char) :=
  let marked := Sequence.shown line
  let text := (marked.filter (·.2)).map (·.1)
  let all := glyphs marked
  (cutBefore (all.zip (wordStarts text ++ [false]))).map (·.flatten)

/-! ## Fragments -/

/-- A part of a line that is not parted further, and how many spaces follow it. -/
structure Fragment where
  text : List Char
  spaces : Nat

namespace Fragment

/-- The columns that a fragment takes without the spaces behind it. -/
def columns (f : Fragment) : Nat :=
  columnsOf f.text

/-- A word as one fragment. -/
def ofWord (word : List Char) : Fragment :=
  let spaces := (word.reverse.takeWhile (· == ' ')).length
  ⟨word.take (word.length - spaces), spaces⟩

/-- The fragments of the parts of a fragment; the spaces stand behind the last. -/
def ofParts (spaces : Nat) : List (List Char) → List Fragment
  | [] => []
  | [part] => [⟨part, spaces⟩]
  | part :: parts => ⟨part, 0⟩ :: ofParts spaces parts

/-- Marks the characters behind a hyphen that stands between letters or digits, given whether the
two characters before are a letter or digit and a hyphen, and whether the last is a letter or
digit. -/
def hyphenMarks (behindHyphen behindWord : Bool) : List Char → List Bool
  | [] => []
  | c :: rest =>
    (behindHyphen && isAlphanumeric c)
      :: hyphenMarks (behindWord && c == '-') (isAlphanumeric c) rest

/-- Parts a fragment behind its hyphens. -/
def atHyphens (f : Fragment) : List Fragment :=
  ofParts f.spaces (cutBefore (f.text.zip (hyphenMarks false false f.text)))

/-- Marks the characters that do not fit any more, given the columns that are used. -/
def overflowMarks (limit used : Nat) : List (Char × Bool) → List Bool
  | [] => []
  | (c, shown) :: rest =>
    if !shown then false :: overflowMarks limit used rest
    else if 0 < used ∧ limit < used + LoxScan.columns c then
      true :: overflowMarks limit (LoxScan.columns c) rest
    else false :: overflowMarks limit (used + LoxScan.columns c) rest

/-- Breaks a fragment that is wider than a line into chunks that are not. -/
def broken (limit : Nat) (f : Fragment) : List Fragment :=
  if f.columns ≤ limit then [f]
  else
    ofParts f.spaces (cutBefore (f.text.zip (overflowMarks limit 0 (Sequence.shown f.text))))

/-- The text of fragments, less the spaces behind the last. -/
def textOf : List Fragment → List Char
  | [] => []
  | [f] => f.text
  | f :: rest => f.text ++ List.replicate f.spaces ' ' ++ textOf rest

/-- The fragments of a line. -/
def ofLine (limit : Nat) (line : List Char) : List Fragment :=
  ((wordsOf line).flatMap (atHyphens ∘ ofWord)).flatMap (broken limit)

/-- Marks the fragments that begin a line, given the columns that are used on the line, if it has
a fragment. -/
def lineMarks (limit : Nat) (used : Option Nat) : List Fragment → List Bool
  | [] => []
  | f :: rest =>
    let begins := used.any (limit < · + f.columns)
    let before := if begins then 0 else used.getD 0
    begins :: lineMarks limit (some (before + f.columns + f.spaces)) rest

end Fragment

/-! ## Lines -/

/-- The lines of a line that is folded.  An empty fragment stands first, so that even the first
word may go to the second line. -/
def foldLine (limit : Nat) (line : List Char) : List (List Char) :=
  let fragments := ⟨[], 0⟩ :: Fragment.ofLine limit line
  (cutBefore (fragments.zip (Fragment.lineMarks limit none fragments))).map Fragment.textOf

/-- How a text is folded: the columns of a line, and what stands before the first line and before
every other. -/
structure Folding where
  limit : Nat
  first : String
  others : String

/-- The lines of a folded text. -/
def Folding.lines (f : Folding) (text : String) : List String :=
  match (text.splitOn "\n").flatMap (foldLine f.limit ·.toList) with
  | [] => []
  | line :: rest =>
    (f.first ++ String.ofList line) :: rest.map (f.others ++ String.ofList ·)

end LoxScan
