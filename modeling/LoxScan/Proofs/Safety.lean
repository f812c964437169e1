/-
# `LoxScan.Proofs.Safety` — no slice goes wrong

Whatever a machine is called for, and wherever it is in answering, it takes the slices
of its next step without a fault, both its bytes are in the source and between two
characters of it, and it comes nearer to its answer; the answers are those of a stream
(`machine_safe`).

The reason is an invariant that sets a machine beside a stream (`Beside`).  The stream
has been asked for what has been answered, and what it would read next is what the
machine is about to read or has read (`Agrees`); the two need not be at the same
place, since a machine passes white space and comments one by one and a stream does not
stop behind them.  One step keeps this (`Beside.steps`), and so does a call
(`Beside.exists_ask`).
-/
import LoxScan.Proofs.Moves

namespace LoxScan

/-! ## Reading at a piece -/

/-- A piece that is in its place is the one that is cut off there. -/
theorem Piece.StandsBefore.exists_cut {piece : Piece} {rest : List Char}
    (stands : piece.StandsBefore rest) :
    ∃ c others, piece.text ++ rest = c :: others ∧ cut c others = (piece, rest) := by
  obtain ⟨c, others, whole⟩ := List.exists_cons_of_ne_nil
    (List.append_ne_nil_of_left_ne_nil (text_ne_nil stands) rest)
  exact ⟨c, others, whole, cut_of_standsBefore stands whole⟩

namespace Machine

/-- What a stream at a cursor reads, and where it is then. -/
def upcoming : Option Cursor → Option Item × Option Cursor
  | none => (none, none)
  | some k => (some k.next.1, k.next.2)

section Upcoming

variable {piece : Piece} {rest : List Char} {p : Position}

theorem upcoming_trivia (stands : piece.StandsBefore rest) (nothing : piece.item? p = none) :
    upcoming (some ⟨piece.text ++ rest, p⟩) = upcoming (some ⟨rest, p.after piece.text⟩) := by
  obtain ⟨c, others, whole, first⟩ := stands.exists_cut
  have next : Cursor.next ⟨c :: others, p⟩ = Cursor.next ⟨rest, p.after piece.text⟩ := by
    rw [Cursor.next]
    simp only [first, nothing]
  rw [upcoming, upcoming, whole, next]

theorem upcoming_item {item : Item} (stands : piece.StandsBefore rest)
    (made : piece.item? p = some item) :
    upcoming (some ⟨piece.text ++ rest, p⟩) = (some item, some ⟨rest, p.after piece.text⟩) := by
  obtain ⟨c, others, whole, first⟩ := stands.exists_cut
  have next : Cursor.next ⟨c :: others, p⟩ = (item, some ⟨rest, p.after piece.text⟩) := by
    rw [Cursor.next]
    simp only [first, made]
  rw [upcoming, whole, next]

end Upcoming

/-! ## A machine beside a stream -/

/-- Between two pieces: the registers are where the cursor is, and where there is no cursor the
token of the end has been read. -/
inductive Stands (source : String) (r : Registers) : Bool → Option Cursor → Prop
  | reading {before taken rest : List Char} : r.At source before taken rest →
      r.line = (Position.start.after (before ++ taken)).line →
      Stands source r false (some ⟨rest, Position.start.after (before ++ taken)⟩)
  | ended {before taken : List Char} : r.At source before taken [] → Stands source r true none

/-- In each phase, what is found in the end is what a stream at the cursor would read. -/
inductive Agrees (source : String) : Phase → Registers → Bool → Option Cursor → Prop
  | idle {r : Registers} {ended : Bool} {k : Option Cursor} :
      Stands source r ended k → Agrees source .idle r ended k
  | search {r : Registers} {ended : Bool} {k further : Option Cursor} :
      Stands source r ended further → upcoming further = upcoming k →
      Agrees source .search r ended k
  | within {point : Point} {r : Registers} {before text : List Char} {k : Option Cursor} :
      Inside source point r before text →
      upcoming (some ⟨text, Position.start.after before⟩) = upcoming k →
      Agrees source (.within point) r false k
  | found {r : Registers} {ended : Bool} {k further : Option Cursor} {item : Option Item} :
      Stands source r ended further → upcoming k = (item, further) →
      Agrees source (.found item) r ended k

/-- The calls that are not answered yet. -/
def pending (m : Machine) : List Call :=
  if m.phase = .idle then [] else [m.call]

/-- A machine is beside the stream that has been asked for what the machine has answered. -/
structure Beside (source : String) (calls : List Call) (m : Machine) (s : Stream) : Prop where
  agrees : Agrees source m.phase m.registers m.ended s.cursor
  held : m.held = s.held
  free : m.phase ≠ .idle → s.held = none
  answers : ∀ more, (Stream.ofSource source).answers (calls.map Call.query ++ more) =
    m.answers.map .item ++ s.answers (m.pending.map Call.query ++ more)

/-- A bound on the steps to the answer: what is due of the phase. -/
def Phase.rank : Phase → Nat
  | idle => 0
  | found _ => 1
  | search => 2
  | within point => point.rank

/-- A bound on the steps to the answer. -/
def due (source : String) (m : Machine) : Nat :=
  stepsDue source m.phase.rank m.registers

/-! ## One step -/

section Step

variable {source : String} {calls : List Call} {m : Machine} {s : Stream}

/-- From a machine to the next one: it is nearer to its answer, it has not gone back, and the piece
that it is in begins where it began, unless one was looked for. -/
structure Forward (source : String) (m next : Machine) : Prop where
  due : next.due source < m.due source
  current : m.registers.current ≤ next.registers.current
  start : m.phase ≠ .search → next.registers.start = m.registers.start

/-- A machine that goes on with the same call stays beside the same stream. -/
theorem Beside.move (beside : Beside source calls m s) (busy : m.phase ≠ .idle) {phase : Phase}
    {r : Registers} {ended : Bool} (agrees : Agrees source phase r ended s.cursor)
    (stillBusy : phase ≠ .idle) :
    Beside source calls { m with phase := phase, registers := r, ended := ended } s where
  agrees := agrees
  held := beside.held
  free _ := beside.free busy
  answers := by
    intro more
    have answers := beside.answers more
    rw [pending, if_neg busy] at answers
    rw [pending, if_neg stillBusy]
    exact answers

/-- A step between pieces that leaves the registers alone. -/
theorem forward_of_rank {phase : Phase} {ended : Bool} {held : Option Item}
    {answers : List (Option Item)} (less : phase.rank < m.phase.rank) :
    Forward source m ⟨phase, m.registers, m.call, held, ended, answers⟩ where
  due := Nat.add_lt_add_left less _
  current := Nat.le_refl _
  start _ := rfl

/-- What the step of a busy machine comes to. -/
def Steps (source : String) (calls : List Call) (m : Machine) : Prop :=
  ∃ next s, m.step source = .ok next ∧ Beside source calls next s ∧ Forward source m next

/-- The step that looks for a piece finds that one begins, or that nothing more comes but the token
of the end. -/
theorem Beside.steps_search (beside : Beside source calls m s) (here : m.phase = .search) :
    Steps source calls m := by
  have busy : m.phase ≠ .idle := by simp [here]
  have agrees := beside.agrees
  rw [here] at agrees
  cases agrees with
  | @search _ _ _ further stands same =>
  -- at a cursor something is left or the token of the end is due; without one neither is
  generalize ended : m.ended = isEnded at stands
  cases stands with
  | @reading before taken rest there line =>
    cases rest with
    | nil =>
      have last : lastToken m.registers = .eof (Position.start.after (before ++ taken)) := by
        simp [lastToken, Token.eof, Position.spanOf, line, there.current]
      have step : m.step source = .ok { m with
          phase := .found (some (.token (lastToken m.registers))), ended := true } := by
        simp [Machine.step, here, there.isAtEnd, ended]
      have read : upcoming s.cursor = (some (.token (lastToken m.registers)), none) := by
        rw [← same, upcoming, last, Cursor.next]
      exact ⟨_, s, step, beside.move busy (.found (.ended there) read) (by simp),
        forward_of_rank (by simp [here, Phase.rank])⟩
    | cons c rest =>
      have step : m.step source =
          .ok { m with phase := .within .opened, registers := m.registers.opened } := by
        simp [Machine.step, here, there.isAtEnd]
      have inside : Inside source .opened m.registers.opened (before ++ taken) (c :: rest) := by
        refine ⟨[], c :: rest, rfl, there.opened line, ?_, .opened⟩
        show _ = (Position.start.after (before ++ taken ++ [])).line
        rw [List.append_nil]
        exact line
      have moved := beside.move busy (.within inside same) (by simp)
      rw [← ended] at moved
      refine ⟨_, s, step, moved, ?_, Nat.le_refl _, fun notSearch => absurd here notSearch⟩
      simp [due, here, Phase.rank, Point.rank, stepsDue, Registers.opened]
  | ended there =>
    have step : m.step source = .ok { m with phase := .found none } := by
      simp [Machine.step, here, there.isAtEnd, ended]
    have stands : Stands source m.registers m.ended none := by
      rw [ended]
      exact .ended there
    exact ⟨_, s, step, beside.move busy (.found stands same.symm) (by simp),
      forward_of_rank (by simp [here, Phase.rank])⟩

/-- Behind a piece there is its item, or another piece is looked for. -/
theorem Beside.steps_cut {item : Option Item} (beside : Beside source calls m s)
    (here : m.phase = .within (.cut item)) : Steps source calls m := by
  have busy : m.phase ≠ .idle := by simp [here]
  have agrees := beside.agrees
  rw [here] at agrees
  generalize ended : m.ended = isEnded at agrees
  cases agrees with
  | @within _ _ before _ _ inside same =>
  obtain ⟨taken, rest, rfl, there, line, fits⟩ := inside
  -- only a whole piece fits this point, and the item is what it makes
  generalize isCut : Point.cut item = point at fits
  cases fits with
  | @cut piece _ stands =>
    have made : piece.item? (Position.start.after before) = item := (Point.cut.inj isCut).symm
    have behind := Stands.reading there line
    rw [← ended] at behind
    cases item with
    | none =>
      have step : m.step source = .ok { m with phase := .search } := by
        simp [Machine.step, here]
      have read := (upcoming_trivia stands made).symm.trans same
      rw [← Position.after_append] at read
      exact ⟨_, s, step, beside.move busy (.search behind read) (by simp),
        forward_of_rank (by simp [here, Phase.rank, Point.rank])⟩
    | some item =>
      have step : m.step source = .ok { m with phase := .found (some item) } := by
        simp [Machine.step, here]
      have read := same.symm.trans (upcoming_item stands made)
      rw [← Position.after_append] at read
      exact ⟨_, s, step, beside.move busy (.found behind read) (by simp),
        forward_of_rank (by simp [here, Phase.rank, Point.rank])⟩
  | _ => cases isCut

theorem step_within {point : Point} (here : m.phase = .within point)
    (notYet : ∀ item, point ≠ .cut item) {point' : Point} {r : Registers}
    (step : m.registers.step source point = .ok (point', r)) :
    m.step source = .ok { m with phase := .within point', registers := r } := by
  rw [Machine.step, here]
  cases point with
  | cut item => exact absurd rfl (notYet item)
  | _ => simp only [step, ok_bind, pure_eq_ok]

/-- Within a piece the machine does what its registers do. -/
theorem Beside.steps_within {point : Point} (beside : Beside source calls m s)
    (here : m.phase = .within point) (notYet : ∀ item, point ≠ .cut item) :
    Steps source calls m := by
  have busy : m.phase ≠ .idle := by simp [here]
  have agrees := beside.agrees
  rw [here] at agrees
  generalize ended : m.ended = isEnded at agrees
  cases agrees with
  | within inside same =>
  obtain ⟨point', r, step, inside', further, nearer⟩ := leads_of_inside inside notYet
  have moved := beside.move busy (.within inside' same) (by simp)
  rw [← ended] at moved
  refine ⟨_, s, step_within here notYet step, moved, ?_, further, ?_⟩
  · rw [due, due, here]
    exact nearer
  · intro _
    exact inside'.start.trans inside.start.symm

theorem read_eq (s : Stream) :
    s.read = ((upcoming s.cursor).1, ⟨s.source, (upcoming s.cursor).2, s.held⟩) := by
  obtain ⟨source, cursor, held⟩ := s
  cases cursor <;> rfl

/-- What has been found is the answer; after a look it is held. -/
theorem Beside.steps_found {item : Option Item} (beside : Beside source calls m s)
    (here : m.phase = .found item) : Steps source calls m := by
  have busy : m.phase ≠ .idle := by simp [here]
  have free := beside.free busy
  have answers := beside.answers
  have agrees := beside.agrees
  rw [pending, if_neg busy] at answers
  rw [here] at agrees
  cases agrees with
  | @found _ _ _ further _ stands read =>
  cases call : m.call with
  | next =>
    have step : m.step source =
        .ok { m with phase := .idle, answers := m.answers ++ [item] } := by
      simp [Machine.step, here, call]
    have answered : s.ask .next = (.item item, ⟨s.source, further, s.held⟩) := by
      rw [Stream.ask, Stream.next, free, read_eq, read, free]
    refine ⟨_, ⟨s.source, further, s.held⟩, step,
      ⟨.idle stands, beside.held, fun notIdle => absurd rfl notIdle, ?_⟩,
      forward_of_rank (by simp [here, Phase.rank])⟩
    intro more
    rw [answers more, call]
    simp [pending, Call.query, Stream.answers, answered]
  | peek =>
    have step : m.step source =
        .ok { m with phase := .idle, held := item, answers := m.answers ++ [item] } := by
      simp [Machine.step, here, call]
    have answered : s.ask .peek = (.item item, ⟨s.source, further, item⟩) := by
      rw [Stream.ask, Stream.peek, free, read_eq, read]
    refine ⟨_, ⟨s.source, further, item⟩, step,
      ⟨.idle stands, rfl, fun notIdle => absurd rfl notIdle, ?_⟩,
      forward_of_rank (by simp [here, Phase.rank])⟩
    intro more
    rw [answers more, call]
    simp [pending, Call.query, Stream.answers, answered]

/-- The step of a busy machine, by its phase. -/
theorem Beside.steps (beside : Beside source calls m s) (busy : m.phase ≠ .idle) :
    Steps source calls m := by
  cases here : m.phase with
  | idle => exact absurd here busy
  | search => exact beside.steps_search here
  | found item => exact beside.steps_found here
  | within point =>
    by_cases isCut : ∃ item, point = .cut item
    · obtain ⟨item, rfl⟩ := isCut
      exact beside.steps_cut here
    · exact beside.steps_within here (not_exists.1 isCut)

end Step

/-! ## Whole runs -/

section Runs

variable {source : String} {calls : List Call} {m : Machine} {s : Stream}

theorem beside_start (source : String) : Beside source [] start (.ofSource source) where
  agrees := by
    have here : start.registers.At source [] [] source.toList := ⟨rfl, rfl, rfl, rfl⟩
    exact .idle (.reading here rfl)
  held := rfl
  free notIdle := absurd rfl notIdle
  answers _ := rfl

/-- A call is answered at once with what is held, and otherwise something is looked for. -/
theorem Beside.exists_ask (beside : Beside source calls m s) (idle : m.phase = .idle)
    (call : Call) : ∃ s, Beside source (calls ++ [call]) (m.ask call) s := by
  obtain ⟨phase, registers, last, held, ended, answers⟩ := m
  obtain ⟨agrees, rfl, free, answered⟩ := beside
  obtain rfl : phase = .idle := idle
  have asked : ∀ more, (Stream.ofSource source).answers ((calls ++ [call]).map Call.query ++ more) =
      answers.map .item ++ s.answers (call.query :: more) := by
    intro more
    rw [List.map_append, List.append_assoc]
    exact answered (call.query :: more)
  cases held : s.held with
  | none =>
    cases agrees with
    | idle stands =>
      refine ⟨s, ?_⟩
      simp only [Machine.ask]
      exact ⟨.search stands rfl, held.symm, fun _ => held, asked⟩
  | some item =>
    cases call with
    | next =>
      have answer : s.ask .next = (.item (some item), ⟨s.source, s.cursor, none⟩) := by
        rw [Stream.ask, Stream.next, held]
      refine ⟨⟨s.source, s.cursor, none⟩, ?_⟩
      simp only [Machine.ask]
      refine ⟨agrees, rfl, fun notIdle => absurd rfl notIdle, ?_⟩
      intro more
      rw [asked more]
      simp [pending, Call.query, Stream.answers, answer]
    | peek =>
      have answer : s.ask .peek = (.item (some item), s) := by
        rw [Stream.ask, Stream.peek, held]
      refine ⟨s, ?_⟩
      simp only [Machine.ask]
      refine ⟨agrees, held.symm, fun notIdle => absurd rfl notIdle, ?_⟩
      intro more
      rw [asked more]
      simp [pending, Call.query, Stream.answers, answer]

theorem step_idle (idle : m.phase = .idle) : m.step source = .ok m := by
  rw [Machine.step, idle]
  rfl

theorem run_idle (idle : m.phase = .idle) (n : Nat) : run source n m = .ok m := by
  induction n with
  | zero => rfl
  | succ n ih => rw [run, step_idle idle, ok_bind, ih]

/-- Whatever comes about is beside a stream. -/
theorem Comes.exists_beside (comes : Comes source calls m) : ∃ s, Beside source calls m s := by
  induction comes with
  | start => exact ⟨_, beside_start source⟩
  | ask call _ idle ih =>
    obtain ⟨s, beside⟩ := ih
    exact beside.exists_ask idle call
  | @step calls m next _ step ih =>
    obtain ⟨s, beside⟩ := ih
    by_cases idle : m.phase = .idle
    · obtain rfl : m = next := Except.ok.inj ((step_idle idle).symm.trans step)
      exact ⟨s, beside⟩
    · obtain ⟨next', s', step', beside', _⟩ := beside.steps idle
      obtain rfl : next' = next := Except.ok.inj (step'.symm.trans step)
      exact ⟨s', beside'⟩

/-- What some steps lead to comes about. -/
theorem Comes.of_run {n : Nat} {last : Machine} (comes : Comes source calls m)
    (reached : run source n m = .ok last) : Comes source calls last := by
  induction n generalizing m with
  | zero =>
    obtain rfl : m = last := Except.ok.inj reached
    exact comes
  | succ n ih =>
    rw [run] at reached
    cases step : m.step source with
    | error fault =>
      rw [step] at reached
      cases reached
    | ok next =>
      rw [step] at reached
      exact ih (comes.step step) reached

/-- In as many steps as are due a machine comes to be idle. -/
theorem Comes.exists_idle {n : Nat} (comes : Comes source calls m) (enough : m.due source ≤ n) :
    ∃ idle, run source n m = .ok idle ∧ idle.phase = .idle := by
  induction n generalizing m with
  | zero =>
    by_cases idle : m.phase = .idle
    · exact ⟨m, rfl, idle⟩
    · obtain ⟨s, beside⟩ := comes.exists_beside
      obtain ⟨next, _, _, _, forward⟩ := beside.steps idle
      exact absurd forward.due (by omega)
  | succ n ih =>
    by_cases idle : m.phase = .idle
    · exact ⟨m, run_idle idle _, idle⟩
    · obtain ⟨s, beside⟩ := comes.exists_beside
      obtain ⟨next, _, step, _, forward⟩ := beside.steps idle
      have less := forward.due
      obtain ⟨last, reached, isIdle⟩ := ih (comes.step step) (by omega)
      refine ⟨last, ?_, isIdle⟩
      rw [run, step]
      exact reached

/-- Every row of calls is answered. -/
theorem exists_comes_idle (source : String) (calls : List Call) :
    ∃ m, Comes source calls m ∧ m.phase = .idle := by
  induction calls using List.reverseRecOn with
  | nil => exact ⟨start, .start, rfl⟩
  | append_singleton calls call ih =>
    obtain ⟨m, comes, idle⟩ := ih
    have asked := comes.ask call idle
    obtain ⟨last, reached, isIdle⟩ := asked.exists_idle (Nat.le_refl _)
    exact ⟨last, asked.of_run reached, isIdle⟩

/-! ## Safety -/

/-- What holds of a machine wherever it has come to.  Its bytes are in order, in the source, and
between two characters; its next step takes no slice that cannot be taken, and goes forward; so it
comes to be idle, and its answers then are those of a stream. -/
structure Safe (source : String) (calls : List Call) (m : Machine) : Prop where
  ordered : m.registers.start ≤ m.registers.current
  inSource : m.registers.current ≤ source.utf8ByteSize
  validStart : String.Pos.Raw.IsValid source ⟨m.registers.start⟩
  validCurrent : String.Pos.Raw.IsValid source ⟨m.registers.current⟩
  step : ∃ next, m.step source = .ok next ∧ (m.phase ≠ .idle → Forward source m next)
  opened : m.phase = .within .opened →
    m.registers.start = m.registers.current ∧ m.registers.current < source.utf8ByteSize
  closed : m.phase = .within .closed → m.registers.start + 1 ≤ m.registers.current - 1
  cut : ∀ item, m.phase = .within (.cut item) → m.registers.start < m.registers.current
  ends : ∃ idle, run source (m.due source) m = .ok idle ∧ idle.phase = .idle
  answers : m.phase = .idle →
    m.answers.map .item = (Stream.ofSource source).answers (calls.map Call.query)

theorem Beside.exists_at (beside : Beside source calls m s) :
    ∃ before taken rest, m.registers.At source before taken rest := by
  have ofStands : ∀ {r ended k}, Stands source r ended k →
      ∃ before taken rest, r.At source before taken rest := by
    rintro r ended k (⟨here, -⟩ | here)
    · exact ⟨_, _, _, here⟩
    · exact ⟨_, _, _, here⟩
  have agrees := beside.agrees
  generalize m.phase = phase, m.ended = ended at agrees
  cases agrees with
  | idle stands => exact ofStands stands
  | search stands => exact ofStands stands
  | found stands => exact ofStands stands
  | within inside =>
    obtain ⟨taken, rest, -, here, -⟩ := inside
    exact ⟨_, _, _, here⟩

/-- What has been read of the piece fits the point. -/
theorem Beside.exists_fits {point : Point} (beside : Beside source calls m s)
    (here : m.phase = .within point) :
    ∃ before taken rest, m.registers.At source before taken rest ∧
      Fits (Position.start.after before) point taken rest := by
  have agrees := beside.agrees
  rw [here] at agrees
  generalize m.ended = ended at agrees
  cases agrees with
  | within inside =>
    obtain ⟨taken, rest, -, there, -, fits⟩ := inside
    exact ⟨_, taken, rest, there, fits⟩

theorem safe_of_comes (comes : Comes source calls m) : Safe source calls m := by
  obtain ⟨s, beside⟩ := comes.exists_beside
  obtain ⟨before, taken, rest, there⟩ := beside.exists_at
  refine ⟨?ordered, ?inSource, ?validStart, ?validCurrent, ?step, ?opened, ?closed, ?cut, ?ends,
    ?answers⟩
  case ordered => exact there.ordered
  case inSource =>
    rw [there.size]
    exact Nat.le_add_right _ _
  case validStart =>
    rw [there.start]
    exact isValid_of_split there.split
  case validCurrent =>
    rw [there.current]
    exact isValid_of_split (there.split.trans (List.append_assoc ..).symm)
  case step =>
    by_cases idle : m.phase = .idle
    · exact ⟨m, step_idle idle, fun notIdle => absurd idle notIdle⟩
    · obtain ⟨next, _, step, _, forward⟩ := beside.steps idle
      exact ⟨next, step, fun _ => forward⟩
  case opened =>
    intro here
    obtain ⟨before, taken, rest, there, fits⟩ := beside.exists_fits here
    cases fits with
    | @opened c rest =>
      have left := byteLength_pos (List.cons_ne_nil c rest)
      constructor
      · rw [there.current_eq]
        rfl
      · rw [there.size]
        omega
  case closed =>
    intro here
    obtain ⟨before, taken, rest, there, fits⟩ := beside.exists_fits here
    cases fits with
    | @closed body rest =>
      have quote : Char.utf8Size '"' = 1 := by decide
      rw [there.current_eq]
      simp [quote]
      omega
  case cut =>
    intro item here
    obtain ⟨before, taken, rest, there, fits⟩ := beside.exists_fits here
    generalize isCut : Point.cut item = point at fits
    cases fits with
    | cut stands =>
      rw [there.current_eq]
      exact Nat.lt_add_of_pos_right (byteLength_pos (Piece.text_ne_nil stands))
    | _ => cases isCut
  case ends => exact comes.exists_idle (Nat.le_refl _)
  case answers =>
    intro idle
    have answered := beside.answers []
    rw [pending, if_pos idle] at answered
    simpa [Stream.answers] using answered.symm

end Runs

end Machine

/-- A scan by bytes never takes a slice that cannot be taken.  Wherever a machine has come to, after
whatever calls and in the middle of whatever piece, it is safe; and every row of calls is answered,
since no loop goes on for ever. -/
theorem machine_safe (source : String) :
    (∀ calls m, Machine.Comes source calls m → Machine.Safe source calls m) ∧
    ∀ calls, ∃ m, Machine.Comes source calls m ∧ m.phase = .idle :=
  ⟨fun _ _ comes => Machine.safe_of_comes comes, Machine.exists_comes_idle source⟩

/-- Where the closing quote of a string has just been read, behind a character of two bytes. -/
theorem machine_safe_closed_string :
    Machine.run "\"é\"" 5 (Machine.start.ask .peek) =
        .ok ⟨.within .closed, ⟨0, 4, 1, 1⟩, .peek, none, false, []⟩ ∧
      Machine.Safe "\"é\"" [.peek] ⟨.within .closed, ⟨0, 4, 1, 1⟩, .peek, none, false, []⟩ := by
  have reached : Machine.run "\"é\"" 5 (Machine.start.ask .peek) =
      .ok ⟨.within .closed, ⟨0, 4, 1, 1⟩, .peek, none, false, []⟩ := by
    decide +kernel
  have asked : Machine.Comes "\"é\"" [.peek] (Machine.start.ask .peek) :=
    Machine.Comes.start.ask .peek rfl
  exact ⟨reached, (machine_safe "\"é\"").1 _ _ (asked.of_run reached)⟩

/-- Within that character no slice can begin or end; the run takes none there. -/
example : Machine.slice "\"é\"" 1 2 = .error ⟨1, 2⟩ ∧
    (Machine.run "\"é\"" 10 (Machine.start.ask .next)).map Machine.answers =
      .ok [some (.token ⟨.string, "\"é\"", some (.text "é"), 1, ⟨0, 4⟩⟩)] := by
  decide +kernel

end LoxScan
