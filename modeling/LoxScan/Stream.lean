/-
# `LoxScan.Stream` — items one at a time

A stream gives the items of a text on demand.  It reads no further than the item
asked for, and a look at the next item reads it and holds it, so a stream that
has been looked at has its cursor one item ahead of its reader.  When the token
of the end has been read the cursor is gone; when it has been given out nothing
is left.
-/
import LoxScan.Scan

namespace LoxScan

/-! ## Cursors -/

/-- How far a text has been read: what is left of it, and where that begins. -/
structure Cursor where
  rest : List Char
  position : Position

namespace Cursor

/-- The cursor before the first character of a text. -/
def ofSource (source : String) : Cursor :=
  ⟨source.toList, .start⟩

/-- The next item, and the cursor behind it; there is none behind the end of the text. -/
def next (k : Cursor) : Item × Option Cursor :=
  match k with
  | ⟨[], p⟩ => (.token (.eof p), none)
  | ⟨c :: rest, p⟩ =>
    let piece := (Piece.cut c rest).1
    let behind : Cursor := ⟨(Piece.cut c rest).2, p.after piece.text⟩
    match piece.item? p with
    | some item => (item, some behind)
    | none => behind.next
termination_by k.rest.length
decreasing_by exact Nat.lt_succ_of_le (Piece.length_cut_le c rest)

/-- Reading an item brings the cursor nearer to the end. -/
theorem length_rest_next {k behind : Cursor} (found : k.next.2 = some behind) :
    behind.rest.length < k.rest.length := by
  fun_induction next k with
  | case1 => cases found
  | case2 c rest p piece ahead item _ =>
    rw [← Option.some.inj found]
    exact Nat.lt_succ_of_le (Piece.length_cut_le c rest)
  | case3 c rest p piece ahead _ ih =>
    exact Nat.lt_trans (ih found) (Nat.lt_succ_of_le (Piece.length_cut_le c rest))

/-- All items from the cursor on. -/
def remaining (k : Cursor) : List Item :=
  match _ : k.next with
  | (item, none) => [item]
  | (item, some behind) => item :: behind.remaining
termination_by k.rest.length
decreasing_by exact length_rest_next (by rw [‹k.next = _›])

end Cursor

/-! ## Streams -/

/-- A text that is being read: the text, the cursor until the end has been read, and an item that
has been read but not given out. -/
structure Stream where
  source : String
  cursor : Option Cursor
  held : Option Item

namespace Stream

/-- The stream of a text of which nothing has been read. -/
def ofSource (source : String) : Stream :=
  ⟨source, some (.ofSource source), none⟩

/-- Reads an item at the cursor. -/
def read (s : Stream) : Option Item × Stream :=
  match s.cursor with
  | none => (none, s)
  | some k => (some k.next.1, ⟨s.source, k.next.2, s.held⟩)

/-- Gives out the next item. -/
def next (s : Stream) : Option Item × Stream :=
  match s.held with
  | some item => (some item, ⟨s.source, s.cursor, none⟩)
  | none => s.read

/-- Shows the next item and keeps it. -/
def peek (s : Stream) : Option Item × Stream :=
  match s.held with
  | some item => (some item, s)
  | none => (s.read.1, ⟨s.source, s.read.2.cursor, s.read.1⟩)

/-- Gives out all items that are left. -/
def drain (s : Stream) : List Item × Stream :=
  (s.held.toList ++ (s.cursor.map Cursor.remaining).getD [], ⟨s.source, none, none⟩)

/-! ## Conversations -/

/-- What a stream can be asked for: the next item, a look at it, the text, or all that is left. -/
inductive Query where
  | next
  | peek
  | source
  | drain
deriving DecidableEq

/-- What a stream answers. -/
inductive Answer where
  | item (item : Option Item)
  | source (text : String)
  | items (items : List Item)
deriving DecidableEq

/-- Answers one question. -/
def ask (s : Stream) : Query → Answer × Stream
  | .next => (.item s.next.1, s.next.2)
  | .peek => (.item s.peek.1, s.peek.2)
  | .source => (.source s.source, s)
  | .drain => (.items s.drain.1, s.drain.2)

/-- Answers questions one after the other. -/
def answers (s : Stream) : List Query → List Answer
  | [] => []
  | query :: queries => (s.ask query).1 :: (s.ask query).2.answers queries

end Stream

end LoxScan
