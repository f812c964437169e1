/-
# `LoxScan.Session` — runs of the program

A run prints lines on two channels and ends with a status.  A script is one
scan; a prompt is a scan for each line of the input, and its status does not
depend on what the scans found.  Input that is not UTF-8 ends a run: a script
before anything is scanned, a prompt at the line that is not.
-/
import LoxScan.Command
import LoxScan.Input
import LoxScan.Log
import LoxScan.Text.Folded
import LoxScan.Volume

namespace LoxScan

/-! ## Transcripts -/

/-- What a run printed, line by line, and how it ended. -/
structure Transcript where
  out : List String
  err : List String
  status : ExitStatus

namespace Transcript

/-- A run that ends at once. -/
def ended (status : ExitStatus) : Transcript :=
  ⟨[], [], status⟩

/-- A run that first prints lines. -/
def printing (out err : List String) (t : Transcript) : Transcript :=
  ⟨out ++ t.out, err ++ t.err, t.status⟩

/-- How a failure is shown: a cross before its first line and a bar before the others, and 74
columns behind either. -/
def failureFolding : Folding :=
  ⟨74, "  × ", "  │ "⟩

/-- A run that ends because of a failure to read. -/
def failed (message : String) : Transcript :=
  ⟨[], failureFolding.lines message ++ [""], .failure⟩

/-- Lines as they are printed. -/
def printed (lines : List String) : String :=
  String.join (lines.map (· ++ "\n"))

end Transcript

/-! ## Scans -/

namespace Report

/-- The lines on standard output: the tokens. -/
def echo (r : Report) : List String :=
  r.tokens.map Token.display

/-- The lines on standard error: the diagnostics. -/
def complaints (r : Report) : List String :=
  r.diagnostics.map Diagnostic.display

end Report

/-- A run that first scans a source and prints the report. -/
def Transcript.scanning (verbose : Bool) (file : Option String) (source : String)
    (t : Transcript) : Transcript :=
  let r := Report.ofSource file source
  t.printing r.echo ((if verbose then r.log source.utf8ByteSize else []) ++ r.complaints)

/-! ## Scripts and prompts -/

/-- The text of a file that was read, or the failure to read it as text. -/
def decodeFile (content : Except ReadError (List UInt8)) : Except ReadError String := do
  match decode? (← content) with
  | some source => .ok source
  | none => .error .notUtf8

/-- What is said when a file cannot be read. -/
def ReadError.message (path : String) (e : ReadError) : String :=
  "Failed to read " ++ path ++ ": " ++ e.reason

/-- The report on a file, or what is said when it cannot be read. -/
def Report.ofFile (path : String) (content : Except ReadError (List UInt8)) :
    Except String Report :=
  match decodeFile content with
  | .ok source => .ok (.ofSource (some path) source)
  | .error e => .error (e.message path)

/-- The run over a script. -/
def runScript (verbose : Bool) (path : String) (content : Except ReadError (List UInt8)) :
    Transcript :=
  Transcript.printing [] (if verbose then [scriptLog path] else []) <|
    match decodeFile content with
    | .ok source =>
      .scanning verbose (some path) source (.ended (Report.ofSource (some path) source).status)
    | .error e => .failed (e.message path)

/-- The run over the lines of a prompt. -/
def runPrompt (verbose : Bool) : List (List UInt8) → Transcript
  | [] => .ended .success
  | line :: lines =>
    match decode? line with
    | some source => .scanning verbose none source (runPrompt verbose lines)
    | none => .failed "Failed to read line: stream did not contain valid UTF-8"

/-! ## The program -/

/-- The lines of the help text. -/
def helpLines : List String :=
  ["Command-line interface for the Lox scripting language",
   "",
   "Usage: lox [OPTIONS] [SCRIPT]",
   "",
   "Arguments:",
   "  [SCRIPT]  Script to scan (starts an interactive prompt when omitted)",
   "",
   "Options:",
   "  -v, --verbose  Enable verbose output",
   "  -h, --help     Print help",
   "  -V, --version  Print version"]

/-- The run that prints why nothing is scanned. -/
def Command.Stop.transcript : Command.Stop → Transcript
  | help => ⟨helpLines, [], .success⟩
  | version => ⟨["lox 0.1.0"], [], .success⟩
  | misuse e => ⟨[], ["error: " ++ e.message], .usage⟩

/-- The run that a request asks for, over the files that can be read and the input. -/
def Command.Request.run (r : Command.Request) (read : String → Except ReadError (List UInt8))
    (input : List UInt8) : Transcript :=
  match r.script with
  | some path => runScript r.verbose path (read path)
  | none => runPrompt r.verbose (byteLines input)

/-- The run of a command line. -/
def run (arguments : List String) (read : String → Except ReadError (List UInt8))
    (input : List UInt8) : Transcript :=
  match Command.Request.ofArguments arguments with
  | .ok r => r.run read input
  | .error stop => stop.transcript

end LoxScan
