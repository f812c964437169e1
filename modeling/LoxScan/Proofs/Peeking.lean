/-
# `LoxScan.Proofs.Peeking` — a look at the next item leaves no trace

A stream that has been looked at is one item ahead of its reader, and it is done
with its text when it has read the token of the end, not when it has given that
token out.  Neither can be told from its answers.  They are those of a tape, which
holds the items of the scan from the beginning and has nothing but them: no cursor,
no item that is held, no end that has been seen (`answers_ofSource`).

The simulation is one equation, with no invariant to it: of whatever stream, the
tape that is left of it (`Stream.tape`) answers a question as the stream does, and
is left as the stream is (`ask_tape`).  What follows is said of tapes first: what
has been given out and what is left make up the items (`given_append_left`), and
looks may be left out of a conversation (`answers_unpeeked`).
-/
import LoxScan.Proofs.Tiling

namespace LoxScan

/-! ## Tapes -/

/-- A text, and the items that are left to give out. -/
structure Tape where
  source : String
  left : List Item

namespace Tape

open LoxScan.Stream (Query Answer)

/-- The tape of a text of which nothing has been given out. -/
def ofSource (source : String) : Tape :=
  ⟨source, scan source⟩

/-- Answers one question: the next item is taken off or only shown, and all that are left are taken
off together. -/
def ask (t : Tape) : Query → Answer × Tape
  | .next => (.item t.left.head?, ⟨t.source, t.left.tail⟩)
  | .peek => (.item t.left.head?, t)
  | .source => (.source t.source, t)
  | .drain => (.items t.left, ⟨t.source, []⟩)

/-- Answers questions one after the other. -/
def answers (t : Tape) : List Query → List Answer
  | [] => []
  | query :: queries => (t.ask query).1 :: (t.ask query).2.answers queries

/-- The tape behind a conversation. -/
def after (t : Tape) : List Query → Tape
  | [] => t
  | query :: queries => (t.ask query).2.after queries

end Tape

/-! ## What a conversation gives out -/

namespace Stream

/-- The items that are given out with an answer; those that are shown are not. -/
def given : Query → Answer → List Item
  | .next, .item item => item.toList
  | .drain, .items items => items
  | _, _ => []

/-- The items that are given out in a conversation, in their order. -/
def allGiven (queries : List Query) (answers : List Answer) : List Item :=
  (queries.zip answers).flatMap fun exchange => given exchange.1 exchange.2

/-- The answers of a conversation but for those to looks. -/
def unpeeked (queries : List Query) (answers : List Answer) : List Answer :=
  ((queries.zip answers).filter fun exchange => exchange.1 ≠ .peek).map Prod.snd

/-- What is answered when no item is left. -/
def spent (source : String) : Query → Answer
  | .next => .item none
  | .peek => .item none
  | .source => .source source
  | .drain => .items []

end Stream

namespace Tape

open LoxScan.Stream (Query Answer)

theorem source_ask (t : Tape) (query : Query) : (t.ask query).2.source = t.source := by
  cases query <;> rfl

theorem source_after (t : Tape) (queries : List Query) : (t.after queries).source = t.source := by
  induction queries generalizing t with
  | nil => rfl
  | cons query queries ih => exact (ih _).trans (t.source_ask query)

theorem answers_append (t : Tape) (queries more : List Query) :
    t.answers (queries ++ more) = t.answers queries ++ (t.after queries).answers more := by
  induction queries generalizing t with
  | nil => rfl
  | cons query queries ih =>
    rw [List.cons_append, answers, answers, ih]
    rfl

/-- What is given out with one answer, and what is left then, is what was left. -/
theorem given_ask (t : Tape) (query : Query) :
    Stream.given query (t.ask query).1 ++ (t.ask query).2.left = t.left := by
  obtain ⟨source, left⟩ := t
  cases query with
  | next => cases left <;> rfl
  | peek => rfl
  | source => rfl
  | drain => exact List.append_nil left

/-- No item is lost in a conversation, and none comes twice or out of its turn. -/
theorem given_append_left (t : Tape) (queries : List Query) :
    Stream.allGiven queries (t.answers queries) ++ (t.after queries).left = t.left := by
  induction queries generalizing t with
  | nil => rfl
  | cons query queries ih =>
    have later := ih (t.ask query).2
    have here := t.given_ask query
    rw [← later, ← List.append_assoc] at here
    exact here

/-- The answers of a tape with nothing left on it. -/
theorem answers_spent (source : String) (queries : List Query) :
    (⟨source, []⟩ : Tape).answers queries = queries.map (Stream.spent source) := by
  induction queries with
  | nil => rfl
  | cons query queries ih =>
    have same : (⟨source, []⟩ : Tape).ask query = (Stream.spent source query, ⟨source, []⟩) := by
      cases query <;> rfl
    rw [answers, same, ih]
    rfl

/-- A conversation without its looks has the same other answers. -/
theorem answers_unpeeked (t : Tape) (queries : List Query) :
    t.answers (queries.filter (· ≠ .peek)) = Stream.unpeeked queries (t.answers queries) := by
  induction queries generalizing t with
  | nil => rfl
  | cons query queries ih =>
    cases query with
    | peek => exact ih t
    | next => exact congrArg (_ :: ·) (ih _)
    | source => exact congrArg (_ :: ·) (ih _)
    | drain => exact congrArg (_ :: ·) (ih _)

/-- Asked for the next item as often as there are items, a tape gives them all out. -/
theorem answers_replicate_next (t : Tape) :
    t.answers (List.replicate t.left.length .next) = t.left.map fun item => .item (some item) := by
  obtain ⟨source, left⟩ := t
  induction left with
  | nil => rfl
  | cons item left ih => exact congrArg (_ :: ·) ih

end Tape

/-! ## Streams are tapes -/

namespace Stream

/-- The items that a stream still has to give: the one it holds, and those from its cursor on. -/
def left (s : Stream) : List Item :=
  s.held.toList ++ (s.cursor.map Cursor.remaining).getD []

/-- What is left of a stream, as a tape. -/
def tape (s : Stream) : Tape :=
  ⟨s.source, s.left⟩

theorem left_held (source : String) (cursor : Option Cursor) (item : Item) :
    (Stream.mk source cursor (some item)).left =
      item :: (Stream.mk source cursor none).left := rfl

/-- At a cursor, the item that is read comes first, and behind it what is left from there. -/
theorem left_cursor (source : String) (k : Cursor) :
    (Stream.mk source (some k) none).left = k.next.1 :: (Stream.mk source k.next.2 none).left := by
  show k.remaining = k.next.1 :: (k.next.2.map Cursor.remaining).getD []
  rw [Cursor.remaining_eq, Cursor.itemsOf_pieces]
  cases k.next.2 with
  | none => rfl
  | some behind => exact congrArg (_ :: ·) behind.remaining_eq.symm

/-- One step of the simulation: a stream and the tape that is left of it answer alike, and what is
left of the stream then is what the tape is left as. -/
theorem ask_tape (s : Stream) (query : Query) :
    s.tape.ask query = ((s.ask query).1, (s.ask query).2.tape) := by
  obtain ⟨source, cursor, held⟩ := s
  cases query with
  | source => rfl
  | drain => rfl
  | next =>
    cases held with
    | some item => rfl
    | none =>
      cases cursor with
      | none => rfl
      | some k =>
        rw [tape, left_cursor]
        rfl
  | peek =>
    cases held with
    | some item => rfl
    | none =>
      cases cursor with
      | none => rfl
      | some k =>
        -- the item that is held now is the first of those that were left
        have ahead := (left_cursor source k).trans (left_held source k.next.2 k.next.1).symm
        rw [tape, ahead]
        rfl

theorem answers_tape (s : Stream) (queries : List Query) :
    s.answers queries = s.tape.answers queries := by
  induction queries generalizing s with
  | nil => rfl
  | cons query queries ih =>
    rw [answers, Tape.answers, ask_tape, ih]

theorem tape_ofSource (source : String) : (ofSource source).tape = Tape.ofSource source :=
  congrArg (Tape.mk source) (drain_ofSource source)

theorem answers_ofSource (source : String) (queries : List Query) :
    (ofSource source).answers queries = (Tape.ofSource source).answers queries := by
  rw [answers_tape, tape_ofSource]

/-- A stream answers as the tape of its items does, whatever it is asked.  The items are those that
it gives out if it is never looked at, and the only token of the end is the last of them.  What a
conversation gives out is a first part of the items; behind one that has given them all out there
is nothing more; and one without its looks has the same other answers. -/
theorem answers_unaffected (source : String) :
    (∀ queries, (ofSource source).answers queries = (Tape.ofSource source).answers queries) ∧
    (ofSource source).answers (List.replicate (scan source).length .next) =
      (scan source).map (fun item => .item (some item)) ∧
    (∃ items e, scan source = items ++ [.token e] ∧ e.kind = .eof ∧
      ∀ t, .token t ∈ items → t.kind ≠ .eof) ∧
    (∀ queries, allGiven queries ((ofSource source).answers queries) <+: scan source) ∧
    (∀ queries more, allGiven queries ((ofSource source).answers queries) = scan source →
      (ofSource source).answers (queries ++ more) =
        (ofSource source).answers queries ++ more.map (spent source)) ∧
    ∀ queries, (ofSource source).answers (queries.filter (· ≠ .peek)) =
      unpeeked queries ((ofSource source).answers queries) := by
  refine ⟨answers_ofSource source, ?_, ?_, ?_, ?_, ?_⟩
  · rw [answers_ofSource]
    exact (Tape.ofSource source).answers_replicate_next
  · exact ⟨_, _, scan_eq_append source, rfl, (tiling_itemsAlong source).kind_ne_eof⟩
  · intro queries
    rw [answers_ofSource]
    exact ⟨_, (Tape.ofSource source).given_append_left queries⟩
  · intro queries more complete
    rw [answers_ofSource] at complete ⊢
    have whole : _ = scan source := (Tape.ofSource source).given_append_left queries
    rw [complete] at whole
    have none : ((Tape.ofSource source).after queries).left = [] :=
      List.append_cancel_left (whole.trans (List.append_nil _).symm)
    have behind : (Tape.ofSource source).after queries = ⟨source, []⟩ :=
      congr (congrArg Tape.mk ((Tape.ofSource source).source_after queries)) none
    rw [Tape.answers_append, behind, Tape.answers_spent, ← answers_ofSource]
  · intro queries
    rw [answers_ofSource, answers_ofSource]
    exact (Tape.ofSource source).answers_unpeeked queries

end Stream

end LoxScan
