/-
# `LoxScan.Proofs.Unambiguous` — the tokens can be read off what is echoed

What is printed of scans tells all of their tokens but the places: a decoder gets
kinds, texts and values back from the printed text alone (`echoes_tell_tokens`).
A string may hold line breaks and whole echoes of other tokens, so the decoder does
not go by lines:

| part of an echo | ends |
| :-- | :-- |
| the name of the kind | at the first space |
| the text of the token | where a cut ends that begins there |
| the value | behind as many characters as the text tells |

The middle row carries the argument.  Behind the text of a token its echo goes on
with white space, and white space carries no lexeme on, so the cut that once took the
token from its source takes it again (`cut_echoed`).
-/
import LoxScan.Proofs.Agreement
import LoxScan.Proofs.Sources
import LoxScan.Proofs.Tokens

namespace LoxScan

/-! ## Tokens without their places -/

/-- What a token is, wherever it stands. -/
structure Unplaced where
  kind : Kind
  lexeme : String
  literal : Option Literal
deriving DecidableEq

/-- A token without its line and its span. -/
def Token.unplaced (t : Token) : Unplaced :=
  ⟨t.kind, t.lexeme, t.literal⟩

/-- The token of a lexeme, wherever it stands. -/
def Lexeme.unplaced (l : Lexeme) : Unplaced :=
  ⟨l.kind, String.ofList l.text, l.literal?⟩

namespace Token

/-- The place of a token is not echoed. -/
theorem display_congr {one other : Token} (same : one.unplaced = other.unplaced) :
    one.display = other.display := by
  obtain ⟨kind, lexeme, literal, line, span⟩ := one
  obtain ⟨kind', lexeme', literal', line', span'⟩ := other
  cases same
  rfl

end Token

/-! ## The decoder -/

/-- Reads the echo at the front of a printed text: what it tells, and what is printed behind it.
The name of the kind is only looked at to know the end; the value is not looked at at all. -/
def readEcho? (printed : List Char) : Option (Unplaced × List Char) :=
  match printed.dropWhile (· != ' ') with
  | _ :: c :: rest =>
    if printed.takeWhile (· != ' ') = Kind.eof.name.toList then some (⟨.eof, "", none⟩, rest)
    else
      match Piece.cut c rest with
      | (.lexeme l, behind) =>
        some (l.unplaced, behind.drop ((Token.ofLexeme .start l).valueText.length + 1))
      | _ => none
  | _ => none

/-- What is left behind an echo is shorter. -/
theorem length_lt_of_readEcho? {printed rest : List Char} {told : Unplaced}
    (reads : readEcho? printed = some (told, rest)) : rest.length < printed.length := by
  have shorter := (List.dropWhile_suffix (l := printed) (· != ' ')).length_le
  unfold readEcho? at reads
  split at reads
  · next space c behind found =>
    rw [found, List.length_cons, List.length_cons] at shorter
    split at reads
    · cases reads
      omega
    · have left := Piece.length_cut_le c behind
      split at reads
      · next l after cut =>
        cases reads
        have left : after.length ≤ behind.length := by rwa [cut] at left
        rw [List.length_drop]
        omega
      · cases reads
  · cases reads

/-- Reads echoes one after the other, as far as there are any. -/
def readEchoes (printed : List Char) : List Unplaced :=
  match _ : readEcho? printed with
  | some (told, rest) => told :: readEchoes rest
  | none => []
termination_by printed.length
decreasing_by exact length_lt_of_readEcho? ‹_›

theorem readEchoes_cons {printed rest : List Char} {told : Unplaced}
    (reads : readEcho? printed = some (told, rest)) :
    readEchoes printed = told :: readEchoes rest := by
  rw [readEchoes]
  split
  · next found =>
    cases found.symm.trans reads
    rfl
  · next found => cases found.symm.trans reads

/-! ## Echoes are read back -/

namespace Token

/-- The text of an echoed token is cut off its echo as it was off its source. -/
theorem cut_echoed {l : Lexeme} (formed : l.WellFormed) (p : Position) (rest : List Char)
    {c : Char} {others : List Char}
    (whole : l.text ++ ((ofLexeme p l).valueText ++ '\n' :: rest) = c :: others) :
    Piece.cut c others = (.lexeme l, (ofLexeme p l).valueText ++ '\n' :: rest) := by
  have blank : ∃ d tail, (ofLexeme p l).valueText ++ '\n' :: rest = d :: tail ∧ isBlank d := by
    cases value : (ofLexeme p l).literal with
    | none => exact ⟨'\n', rest, by rw [valueText, value]; rfl, rfl⟩
    | some value' => exact ⟨' ', _, by rw [valueText, value]; rfl, rfl⟩
  obtain ⟨d, tail, begins, blank⟩ := blank
  refine Piece.cut_of_standsBefore ?_ whole
  rw [begins]
  exact .lexeme formed (l.stopsBefore_blank blank tail)

/-- The echo of a scanned token is read back, whatever is printed behind it. -/
theorem Scanned.readEcho?_append {t : Token} (scanned : t.Scanned) (rest : List Char) :
    readEcho? (t.display.toList ++ '\n' :: rest) = some (t.unplaced, rest) := by
  have space : ∀ more, Stops (· != ' ') (' ' :: more) := fun _ => stops_cons.2 (by decide)
  have names := t.kind.bne_space_of_mem
  rw [readEcho?, toList_display, List.append_assoc, List.cons_append, List.append_assoc,
    takeWhile_append_of_stops names (space _), dropWhile_append_of_stops names (space _)]
  cases scanned with
  | eof p =>
    have text : (Token.eof p).lexeme.toList = [] := String.toList_empty
    rw [text]
    exact if_pos rfl
  | @lexeme p l formed =>
    have inner : (ofLexeme p l).kind.name.toList ≠ Kind.eof.name.toList := fun same =>
      l.kind_ne_eof (Kind.eq_eof_of_name (String.toList_inj.1 same))
    have text : (ofLexeme p l).lexeme.toList = l.text := String.toList_ofList
    have nonempty : l.text ≠ [] := Piece.text_ne_nil (.lexeme formed l.stopsBefore_nil)
    obtain ⟨c, others, whole⟩ := List.exists_cons_of_ne_nil
      (List.append_ne_nil_of_left_ne_nil nonempty ((ofLexeme p l).valueText ++ '\n' :: rest))
    rw [text, whole]
    dsimp only
    rw [if_neg inner, cut_echoed formed p rest whole]
    -- the value is as long wherever the token stands
    have passed : ((ofLexeme p l).valueText ++ '\n' :: rest).drop
        ((ofLexeme .start l).valueText.length + 1) = rest := by
      rw [← List.singleton_append, ← List.append_assoc]
      exact List.drop_left' (List.length_append)
    exact congrArg (fun rest => some ((ofLexeme p l).unplaced, rest)) passed

end Token

/-! ## What is printed of sources -/

/-- The echoes of the tokens of sources, each scanned on its own. -/
def echoesOfAll (sources : List String) : List String :=
  sources.flatMap fun source => (tokenize source).1.map Token.display

/-- The tokens of sources, each scanned on its own. -/
def tokensOfAll (sources : List String) : List Token :=
  sources.flatMap fun source => (tokenize source).1

theorem echoesOfAll_eq (sources : List String) :
    echoesOfAll sources = (tokensOfAll sources).map Token.display := by
  rw [echoesOfAll, tokensOfAll, List.map_flatMap]

theorem scanned_of_mem_tokensOfAll {sources : List String} {t : Token}
    (mem : t ∈ tokensOfAll sources) : t.Scanned := by
  obtain ⟨source, -, mem⟩ := List.mem_flatMap.1 mem
  exact Token.scanned_of_mem mem

theorem toList_printed_cons (line : String) (lines : List String) :
    (Transcript.printed (line :: lines)).toList =
      line.toList ++ '\n' :: (Transcript.printed lines).toList := by
  rw [Transcript.printed, Transcript.printed, String.toList_join, String.toList_join,
    List.map_cons, List.flatMap_cons, String.toList_append, List.append_assoc]
  rfl

/-- All of a printed text is read back, echo by echo. -/
theorem readEchoes_printed {tokens : List Token} (scanned : ∀ t ∈ tokens, t.Scanned) :
    readEchoes (Transcript.printed (tokens.map Token.display)).toList =
      tokens.map Token.unplaced := by
  induction tokens with
  | nil => rw [readEchoes]; rfl
  | cons t tokens ih =>
    obtain ⟨here, others⟩ := List.forall_mem_cons.1 scanned
    rw [List.map_cons, List.map_cons, toList_printed_cons,
      readEchoes_cons (here.readEcho?_append _), ih others]

theorem readEchoes_echoesOfAll (sources : List String) :
    readEchoes (Transcript.printed (echoesOfAll sources)).toList =
      (tokensOfAll sources).map Token.unplaced := by
  rw [echoesOfAll_eq]
  exact readEchoes_printed fun _ mem => scanned_of_mem_tokensOfAll mem

/-- Tokens that are alike but for their places are echoed alike. -/
theorem map_display_congr {tokens others : List Token}
    (same : tokens.map Token.unplaced = others.map Token.unplaced) :
    tokens.map Token.display = others.map Token.display := by
  induction tokens generalizing others with
  | nil =>
    obtain rfl := List.map_eq_nil_iff.1 same.symm
    rfl
  | cons t tokens ih =>
    obtain ⟨t', others, rfl, here, later⟩ := List.map_eq_cons_iff.1 same.symm
    rw [List.map_cons, List.map_cons, Token.display_congr here.symm, ih later.symm]

/-- Scans are echoed alike exactly if their tokens are alike but for their places. -/
theorem printed_eq_iff (sources others : List String) :
    Transcript.printed (echoesOfAll sources) = Transcript.printed (echoesOfAll others) ↔
      (tokensOfAll sources).map Token.unplaced = (tokensOfAll others).map Token.unplaced := by
  constructor
  · intro same
    rw [← readEchoes_echoesOfAll, same, readEchoes_echoesOfAll]
  · intro same
    rw [echoesOfAll_eq, echoesOfAll_eq, map_display_congr same]

/-- Printed echoes can be told apart.  The decoder reads the tokens of any scans off what is printed
of them, places apart; hence two rows of scans print the same only if they have the same tokens,
with the same text and the same value to the last bit.  A run prints the echoes of its scans, one of
a script or one of each line of a prompt, so runs that print the same have scanned the same
tokens. -/
theorem echoes_tell_tokens (sources others : List String) (one other : Command.Request)
    (read read' : String → Except ReadError (List UInt8)) (input input' : List UInt8) :
    readEchoes (Transcript.printed (echoesOfAll sources)).toList =
        (tokensOfAll sources).map Token.unplaced ∧
      (Transcript.printed (echoesOfAll sources) = Transcript.printed (echoesOfAll others) ↔
        (tokensOfAll sources).map Token.unplaced = (tokensOfAll others).map Token.unplaced) ∧
      (Transcript.printed (one.run read input).out =
          Transcript.printed (other.run read' input').out ↔
        (tokensOfAll (one.sources read input)).map Token.unplaced =
          (tokensOfAll (other.sources read' input')).map Token.unplaced) := by
  refine ⟨readEchoes_echoesOfAll sources, printed_eq_iff sources others, ?_⟩
  rw [out_run, out_run]
  exact printed_eq_iff _ _

end LoxScan
