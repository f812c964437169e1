/-
# `LoxScan.Log` — what is said while a scan is under way

A verbose run tells the size of a source before its scan, each diagnostic as it
is made, and how many tokens and errors there were.  Every line names how much
it matters and who says it.  A path is shown so that a terminal obeys nothing of it.
-/
import LoxScan.Report
import LoxScan.Text.Quoted

namespace LoxScan

/-- A character as a log shows it: the controls that a terminal would obey are given by their
numbers, and all else stands for itself. -/
def logChar (c : Char) : List Char :=
  if ['\x07', '\x08', '\x0c', '\x1b', '\x7f'].contains c then
    ['\\', 'x'] ++ (if c.toNat < 16 then ['0'] else []) ++ Nat.toDigits 16 c.toNat
  else if 0x80 ≤ c.toNat ∧ c.toNat ≤ 0x9f then
    ['\\', 'u', '{'] ++ Nat.toDigits 16 c.toNat ++ ['}']
  else [c]

/-- The line before a script is read. -/
def scriptLog (path : String) : String :=
  "DEBUG lox::commands::run: Scanning: " ++ String.ofList (path.toList.flatMap logChar)

/-- The line of a diagnostic; the path stands between quotes. -/
def Diagnostic.logLine (d : Diagnostic) : String :=
  let file :=
    match d.file with
    | none => "None"
    | some path => "Some(" ++ Quoted.encode path ++ ")"
  "DEBUG lox_driver: " ++ d.message ++ " line=" ++ toString d.line ++ " file=" ++ file

/-- The lines of the scan of a source of so many bytes. -/
def Report.log (bytes : Nat) (r : Report) : List String :=
  [" INFO lox_driver: Scanning " ++ toString bytes ++ " bytes..."]
    ++ r.diagnostics.map Diagnostic.logLine
    ++ [" INFO lox_driver: " ++ toString r.tokens.length ++ " tokens, "
      ++ toString r.diagnostics.length ++ " errors"]

end LoxScan
