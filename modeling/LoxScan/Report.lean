/-
# `LoxScan.Report` — what a user is told of a scan

A report holds the tokens of one source text and a diagnostic for each error.
Nothing is carried from one report to the next: whether a scan failed is a
property of its own report, and the exit status is read off that.
-/
import LoxScan.Scan

namespace LoxScan

/-! ## Exit statuses -/

/-- How a run ends. -/
inductive ExitStatus where
  | success
  | failure
  | usage
  | dataError
deriving DecidableEq

/-- The number that a status is told to the system by. -/
def ExitStatus.code : ExitStatus → Nat
  | success => 0
  | failure => 1
  | usage => 64
  | dataError => 65

/-! ## Diagnostics -/

/-- An error as it is reported: where, what, and in which file if the text came from one. -/
structure Diagnostic where
  line : Nat
  message : String
  file : Option String
deriving DecidableEq

namespace Diagnostic

/-- The diagnostic of an error in a file. -/
def ofError (file : Option String) (e : ScanError) : Diagnostic :=
  ⟨e.line, e.message, file⟩

/-- The line that a diagnostic is printed as. -/
def display (d : Diagnostic) : String :=
  "[line " ++ toString d.line ++ "] Error: " ++ d.message

end Diagnostic

/-! ## Reports -/

/-- The outcome of a scan. -/
structure Report where
  tokens : List Token
  diagnostics : List Diagnostic

namespace Report

/-- The report on a source text. -/
def ofSource (file : Option String) (source : String) : Report :=
  ⟨(tokenize source).1, (tokenize source).2.map (.ofError file)⟩

/-- Whether the scan met an error. -/
def hadError (r : Report) : Bool :=
  !r.diagnostics.isEmpty

/-- The status that a run over one file ends with. -/
def status (r : Report) : ExitStatus :=
  if r.hadError then .dataError else .success

end Report

end LoxScan
