/-
# `LoxScan.Text.Columns` — the columns of a terminal that a character takes

A control takes no column, nor does a character that is not drawn, that extends the
one before it or that is drawn on the one behind it; the characters of the East
Asian scripts and the emoji take two, and all others one.  Four characters have a
width of their own.  Of the places that are kept free among the points of Hebrew,
one counts as a point.
-/
import LoxScan.Text.EastAsian
import LoxScan.Text.Extending

namespace LoxScan

/-- The ranges of the characters that are not drawn by themselves, those that extend the one before
them apart. -/
def invisibleRanges : List (Nat × Nat) :=
  [(0xad, 0xad), (0x34f, 0x34f), (0x5c9, 0x5c9), (0x605, 0x605), (0x61c, 0x61c), (0x70f, 0x70f),
   (0x890, 0x891), (0x8e2, 0x8e2), (0xd4e, 0xd4e), (0x1160, 0x11ff), (0x17b4, 0x17b5),
   (0x180b, 0x180f), (0x200b, 0x200f), (0x202a, 0x202e), (0x2060, 0x206f), (0x3164, 0x3164),
   (0xa8fa, 0xa8fa), (0xd7b0, 0xd7c6), (0xd7cb, 0xd7fb), (0xfe00, 0xfe0f), (0xfeff, 0xfeff),
   (0xffa0, 0xffa0), (0xfff0, 0xfff8), (0x111c2, 0x111c3), (0x113d1, 0x113d1), (0x1193f, 0x1193f),
   (0x11941, 0x11941), (0x11a84, 0x11a89), (0x11d46, 0x11d46), (0x11f02, 0x11f02),
   (0x1bca0, 0x1bca3), (0x1d173, 0x1d17a), (0xe0000, 0xe0fff)]

/-- The characters with a width of their own, by code point. -/
def ownColumns : List (Nat × Nat) :=
  [(0x115f, 2), (0x17a4, 2), (0x17d8, 3), (0x2d7f, 1)]

/-- Whether a character is a control. -/
def isControl (c : Char) : Bool :=
  c.toNat < 0x20 || (0x7f ≤ c.toNat && c.toNat < 0xa0)

/-- The columns that a character takes. -/
def columns (c : Char) : Nat :=
  match ownColumns.lookup c.toNat with
  | some own => own
  | none =>
    if isControl c || inRanges invisibleRanges c || isExtending c then 0
    else if isWide c then 2
    else 1

end LoxScan
