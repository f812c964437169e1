/-
# `LoxScan.Proofs.Machine` — a scan by bytes, one move at a time

A machine answers the calls that a stream answers, but it knows the source by bytes
only.  It keeps two of them, where the piece that it is at began and where it goes on
reading, and whatever it reads it takes out of the source by a slice from one byte to
another.  A slice that goes out of the source, or that ends where it should begin, or
that parts a character, cannot be taken: the machine stops with a fault (`slice`).

Every move is one step (`Machine.step`).  The steps within a piece are a matter of the
registers alone (`Registers.step`); a loop takes a step for each time round, and only the
end of a block comment is passed two bytes at once.  At the end of the source the machine
sees a character with the code zero, which a source may hold as well.

Nothing here says that bytes fit, or that a loop ends.  `LoxScan.Proofs.Safety` does.
-/
import LoxScan.Stream

namespace LoxScan

namespace Machine

/-! ## Slices -/

/-- A slice that cannot be taken. -/
structure Fault where
  start : Nat
  stop : Nat
deriving DecidableEq

section Except

variable {α β : Type}

@[simp] theorem ok_bind (a : α) (f : α → Except Fault β) : (Except.ok a >>= f) = f a := rfl

@[simp] theorem map_ok (f : α → β) (a : α) : f <$> (.ok a : Except Fault α) = .ok (f a) := rfl

@[simp] theorem pure_eq_ok (a : α) : (pure a : Except Fault α) = .ok a := rfl

end Except

/-- The characters of a source from one byte to another.  Both must lie in the source, between two
characters, and in this order. -/
def slice (source : String) (start stop : Nat) : Except Fault (List Char) :=
  if fits : start ≤ stop ∧ String.Pos.Raw.IsValid source ⟨start⟩ ∧
      String.Pos.Raw.IsValid source ⟨stop⟩ then
    .ok (source.slice ⟨⟨start⟩, fits.2.1⟩ ⟨⟨stop⟩, fits.2.2⟩ fits.1).copy.toList
  else .error ⟨start, stop⟩

/-! ## Registers -/

/-- The byte where the present piece began, the byte where reading goes on, the line there, and the
line where the piece began. -/
structure Registers where
  start : Nat
  current : Nat
  line : Nat
  startLine : Nat
deriving DecidableEq

namespace Registers

variable (source : String) (r : Registers)

/-- Whether nothing is left to read. -/
def isAtEnd : Bool :=
  source.utf8ByteSize ≤ r.current

/-- What is left to read. -/
def ahead : Except Fault (List Char) :=
  slice source r.current source.utf8ByteSize

/-- The next character, and zero where there is none. -/
def peek : Except Fault Char := do
  return (← r.ahead source).head?.getD '\x00'

/-- The character behind the next one, and zero where there is none. -/
def peekSecond : Except Fault Char := do
  return (← r.ahead source).tail.head?.getD '\x00'

/-- What has been read of the present piece. -/
def taken : Except Fault (List Char) :=
  slice source r.start r.current

/-- Goes on past some bytes. -/
def skip (bytes : Nat) : Registers :=
  ⟨r.start, r.current + bytes, r.line, r.startLine⟩

/-- Goes on past the next character, if there is one. -/
def advance : Except Fault Registers := do
  match ← r.ahead source with
  | [] => return r
  | c :: _ => return r.skip c.utf8Size

/-- Goes on past the next character if it is `c`. -/
def advanceOver? (c : Char) : Except Fault (Option Registers) := do
  if r.isAtEnd source then return none
  else if (← r.peek source) = c then return some (r.skip c.utf8Size)
  else return none

/-- Counts a line, if the character that is passed ends one. -/
def countLine (c : Char) : Registers :=
  if c = '\n' then ⟨r.start, r.current, r.line + 1, r.startLine⟩ else r

@[simp] theorem current_countLine (c : Char) : (r.countLine c).current = r.current := by
  unfold countLine
  split
  · rfl
  · rfl

/-- Begins a piece where reading goes on. -/
def opened : Registers :=
  ⟨r.current, r.current, r.line, r.line⟩

/-- The stretch that has been read of the present piece. -/
def span : Span :=
  ⟨r.start, r.current⟩

/-- The token of what has been read. -/
def token (kind : Kind) (value : Option Literal) : Except Fault Token := do
  return ⟨kind, .ofList (← r.taken source), value, r.startLine, r.span⟩

end Registers

/-! ## Steps within a piece -/

/-- Where the reading of a piece has come to: before its first character, behind it, in one of the
loops, behind the loop of a block comment, a string or a number, where kind and value of a token are
known, or where the item is, if there is one. -/
inductive Point where
  | opened
  | first (c : Char)
  | line
  | block
  | closing
  | string
  | closed
  | whole
  | fraction
  | numeral
  | word
  | spelled (kind : Kind) (value : Option Literal)
  | cut (item : Option Item)
deriving DecidableEq

/-- The value of a numeral: its digits up to a point, and those behind it. -/
def numeralValue (text : List Char) : Binary64 :=
  Lexeme.decimalValue (text.takeWhile Char.isDigit) (text.dropWhile Char.isDigit).tail

namespace Registers

variable (source : String) (r : Registers)

/-- The step behind the first character of a piece. -/
def classify (c : Char) : Except Fault (Point × Registers) := do
  match CharClass.of c with
  | .blank => return (.cut none, r.countLine c)
  | .lone mark => return (.spelled (.mark mark) none, r)
  | .joining alone joined =>
    match ← r.advanceOver? source '=' with
    | some further => return (.spelled (.mark joined) none, further)
    | none => return (.spelled (.mark alone) none, r)
  | .slash =>
    match ← r.advanceOver? source '/' with
    | some further => return (.line, further)
    | none =>
      match ← r.advanceOver? source '*' with
      | some further => return (.block, further)
      | none => return (.spelled (.mark .slash) none, r)
  | .quote => return (.string, r)
  | .digit => return (.whole, r)
  | .letter => return (.word, r)
  | .foreign => return (.cut (some (.error (.unexpectedChar c r.line r.span))), r)

/-- One step within a piece. -/
def step : Point → Except Fault (Point × Registers)
  | .opened => do
    match ← r.ahead source with
    | [] => return (.cut none, r)
    | c :: _ => return (.first c, r.skip c.utf8Size)
  | .first c => r.classify source c
  | .line => do
    let c ← r.peek source
    if c ≠ '\n' ∧ ¬ r.isAtEnd source then return (.line, ← r.advance source)
    else return (.cut none, r)
  | .block => do
    if r.isAtEnd source then return (.closing, r)
    let c ← r.peek source
    let closes ← if c = '*' then (· == '/') <$> r.peekSecond source else pure false
    if closes then return (.closing, r)
    else return (.block, ← (r.countLine c).advance source)
  | .closing => return (.cut none, if r.isAtEnd source then r else r.skip 2)
  | .string => do
    let c ← r.peek source
    if c ≠ '"' ∧ ¬ r.isAtEnd source then return (.string, ← (r.countLine c).advance source)
    else if r.isAtEnd source then
      return (.cut (some (.error (.unterminatedString r.line r.span))), r)
    else return (.closed, ← r.advance source)
  | .closed => do
    let body ← slice source (r.start + 1) (r.current - 1)
    return (.spelled .string (some (.text (.ofList body))), r)
  | .whole => do
    let c ← r.peek source
    if c.isDigit then return (.whole, ← r.advance source)
    let fraction ← if c = '.' then Char.isDigit <$> r.peekSecond source else pure false
    if fraction then return (.fraction, ← r.advance source) else return (.numeral, r)
  | .fraction => do
    if (← r.peek source).isDigit then return (.fraction, ← r.advance source)
    else return (.numeral, r)
  | .numeral => do
    return (.spelled .number (some (.number (numeralValue (← r.taken source)))), r)
  | .word => do
    if isWordChar (← r.peek source) then return (.word, ← r.advance source)
    else return (.spelled (.ofWord (.ofList (← r.taken source))) none, r)
  | .spelled kind value => do
    return (.cut (some (.token (← r.token source kind value))), r)
  | .cut item => return (.cut item, r)

end Registers

/-! ## Calls -/

/-- What a machine is called for: the next item, or a look at it. -/
inductive Call where
  | next
  | peek
deriving DecidableEq

/-- What a stream is asked for by the same call. -/
def Call.query : Call → Stream.Query
  | next => .next
  | peek => .peek

/-- Where the answer to a call has come to: there is no call, a piece is looked for, one is read, or
what there is to find has been found. -/
inductive Phase where
  | idle
  | search
  | within (point : Point)
  | found (item : Option Item)
deriving DecidableEq

end Machine

open Machine in
/-- A machine: its phase and its registers, the call that it answers or has answered last, the item
that it holds for the next call, whether it has given the token of the end, and its answers. -/
structure Machine where
  phase : Phase
  registers : Registers
  call : Call
  held : Option Item
  ended : Bool
  answers : List (Option Item)
deriving DecidableEq

namespace Machine

/-- The machine before the first call. -/
def start : Machine :=
  ⟨.idle, ⟨0, 0, 1, 1⟩, .next, none, false, []⟩

/-- An idle machine that is called.  What it holds is answered at once. -/
def ask (m : Machine) (call : Call) : Machine :=
  match m.held, call with
  | some item, .next => { m with held := none, answers := m.answers ++ [some item] }
  | some item, .peek => { m with answers := m.answers ++ [some item] }
  | none, call => { m with phase := .search, call := call }

/-- The token of the end. -/
def lastToken (r : Registers) : Token :=
  ⟨.eof, "", none, r.line, ⟨r.current, r.current⟩⟩

/-- One step of a machine. -/
def step (source : String) (m : Machine) : Except Fault Machine :=
  match m.phase with
  | .idle => return m
  | .search =>
    let r := m.registers
    if ¬ r.isAtEnd source then
      return { m with phase := .within .opened, registers := r.opened }
    else if m.ended then return { m with phase := .found none }
    else return { m with phase := .found (some (.token (lastToken r))), ended := true }
  | .within (.cut none) => return { m with phase := .search }
  | .within (.cut (some item)) => return { m with phase := .found (some item) }
  | .within point => do
    let (point, registers) ← m.registers.step source point
    return { m with phase := .within point, registers := registers }
  | .found item =>
    match m.call with
    | .next => return { m with phase := .idle, answers := m.answers ++ [item] }
    | .peek => return { m with phase := .idle, held := item, answers := m.answers ++ [item] }

/-- Some steps of a machine. -/
def run (source : String) : Nat → Machine → Except Fault Machine
  | 0, m => return m
  | n + 1, m => do run source n (← m.step source)

/-- The machines that come about when some calls are made of a machine, each when the one before has
been answered. -/
inductive Comes (source : String) : List Call → Machine → Prop
  | start : Comes source [] start
  | ask {calls : List Call} {m : Machine} (call : Call) : Comes source calls m → m.phase = .idle →
      Comes source (calls ++ [call]) (m.ask call)
  | step {calls : List Call} {m next : Machine} : Comes source calls m →
      m.step source = .ok next → Comes source calls next

end Machine

end LoxScan
