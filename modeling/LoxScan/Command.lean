/-
# `LoxScan.Command` — the command line

The arguments are first taken apart into words, each a flag or an operand, and
the words are then obeyed from left to right; the first that asks for help or
for the version, or that cannot be obeyed, decides.  An empty script name is
only found wrong when the next flag is obeyed or when the words end, so a word
that cannot be obeyed at all goes before it.
-/
import LoxScan.Text.Plain

namespace LoxScan.Command

/-! ## Outcomes -/

/-- What is asked for: messages about the scan, and the script to scan, if any. -/
structure Request where
  verbose : Bool
  script : Option String
deriving DecidableEq

/-- Why a command line is refused. -/
inductive UsageError where
  | unexpectedArgument (argument : String)
  | unexpectedValue (value flag : String)
  | repeated (flag : String)
  | emptyScript
deriving DecidableEq

/-- The text of a refusal.  Nothing of what was given is shown that a terminal would obey. -/
def UsageError.message : UsageError → String
  | unexpectedArgument argument => "unexpected argument '" ++ Plain.ofText argument ++ "' found"
  | unexpectedValue value flag =>
    "unexpected value '" ++ Plain.ofText value ++ "' for '" ++ flag
      ++ "' found; no more were expected"
  | repeated flag => "the argument '" ++ flag ++ "' cannot be used multiple times"
  | emptyScript => "a value is required for '[SCRIPT]' but none was supplied"

/-- Why nothing is scanned. -/
inductive Stop where
  | help
  | version
  | misuse (error : UsageError)
deriving DecidableEq

/-! ## Words -/

/-- The flags. -/
inductive Flag where
  | verbose
  | help
  | version
deriving DecidableEq

namespace Flag

/-- The long spelling of a flag. -/
def name : Flag → String
  | verbose => "verbose"
  | help => "help"
  | version => "version"

/-- The short spelling of a flag. -/
def letter : Flag → Char
  | verbose => 'v'
  | help => 'h'
  | version => 'V'

/-- Every flag once. -/
def all : List Flag := [verbose, help, version]

end Flag

/-- A part of a command line: an operand, a flag, a flag with a value that it does not take, or
what looks like a flag and is none. -/
inductive Word where
  | operand (text : String)
  | flag (flag : Flag)
  | valued (flag : Flag) (value : String)
  | unknown (text : String)
deriving DecidableEq

namespace Word

/-- The word of an argument that begins with two hyphens, by what follows them. -/
def ofLong (body : List Char) : Word :=
  let name := String.ofList (body.takeWhile (· != '='))
  match Flag.all.find? (·.name == name), body.dropWhile (· != '=') with
  | none, _ => unknown ("--" ++ name)
  | some f, [] => flag f
  | some f, _ :: value => valued f (String.ofList value)

/-- The word of a letter behind a single hyphen. -/
def ofShort (c : Char) : Word :=
  match Flag.all.find? (·.letter == c) with
  | some f => flag f
  | none => unknown (String.ofList ['-', c])

/-- The words of one argument. -/
def ofArgument (argument : String) : List Word :=
  match argument.toList with
  | '-' :: '-' :: body => [ofLong body]
  | '-' :: c :: letters => (c :: letters).map ofShort
  | _ => [operand argument]

/-- The words of a command line; behind `--` all arguments are operands. -/
def ofArguments : List String → List Word
  | [] => []
  | argument :: rest =>
    if argument = "--" then rest.map operand else ofArgument argument ++ ofArguments rest

end Word

/-! ## Obeying -/

namespace Request

/-- Refuses an empty script name. -/
def settled (r : Request) : Except Stop Request :=
  if r.script = some "" then .error (.misuse .emptyScript) else .ok r

/-- Obeys one word. -/
def obey (r : Request) : Word → Except Stop Request
  | .operand text =>
    match r.script with
    | none => .ok ⟨r.verbose, some text⟩
    | some _ => .error (.misuse (.unexpectedArgument text))
  | .unknown text => .error (.misuse (.unexpectedArgument text))
  | .valued flag value => .error (.misuse (.unexpectedValue value ("--" ++ flag.name)))
  | .flag flag => do
    let r ← r.settled
    match flag with
    | .help => .error .help
    | .version => .error .version
    | .verbose =>
      if r.verbose then .error (.misuse (.repeated ("--" ++ flag.name)))
      else .ok ⟨true, r.script⟩

/-- What a command line asks for. -/
def ofArguments (arguments : List String) : Except Stop Request := do
  let r ← (Word.ofArguments arguments).foldlM obey ⟨false, none⟩
  r.settled

end Request

end LoxScan.Command
