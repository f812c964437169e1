/-
# `LoxScan.Proofs.Sources` — the texts that a run scans

A script is one text, if its file is one; a prompt is a text for each line, up to the
first line that is none (`Command.Request.sources`).  What a run prints on standard
output is what these texts are echoed by, one after the other, and nothing else
(`out_run`).

A prompt does the same for every text and ends in one of two ways, so one equation
says all of its transcript (`runPrompt_eq`).
-/
import LoxScan.Session

namespace LoxScan

/-! ## Prompts -/

/-- The texts of lines, up to the first line that is none. -/
def textsOf : List (List UInt8) → List String
  | [] => []
  | line :: lines =>
    match decode? line with
    | some source => source :: textsOf lines
    | none => []

/-- The lines on standard error that are about one source of a prompt. -/
def promptErr (verbose : Bool) (source : String) : List String :=
  let r := Report.ofSource none source
  (if verbose then r.log source.utf8ByteSize else []) ++ r.complaints

/-- How a prompt ends that cannot read a line. -/
def lineFailure : Transcript :=
  .failed "Failed to read line: stream did not contain valid UTF-8"

/-- How a prompt ends: at the first line that is no text, or behind the last. -/
def promptEnd (lines : List (List UInt8)) : Transcript :=
  if lines.all fun line => (decode? line).isSome then .ended .success else lineFailure

/-- A prompt prints the reports on its texts, and then it ends. -/
theorem runPrompt_eq (verbose : Bool) (lines : List (List UInt8)) :
    runPrompt verbose lines =
      (promptEnd lines).printing
        ((textsOf lines).flatMap fun source => (Report.ofSource none source).echo)
        ((textsOf lines).flatMap (promptErr verbose)) := by
  induction lines with
  | nil => rfl
  | cons line lines ih =>
    cases decoded : decode? line with
    | none => simp [runPrompt, textsOf, promptEnd, decoded, Transcript.printing, lineFailure]
    | some source =>
      have ends : promptEnd (line :: lines) = promptEnd lines := by
        simp [promptEnd, decoded]
      rw [runPrompt, textsOf, decoded, ends]
      simp only [ih, Transcript.scanning, Transcript.printing, promptErr, List.flatMap_cons,
        List.append_assoc]

/-! ## Runs -/

/-- The texts that the run of a request scans. -/
def Command.Request.sources (r : Command.Request) (read : String → Except ReadError (List UInt8))
    (input : List UInt8) : List String :=
  match r.script with
  | some path =>
    match decodeFile (read path) with
    | .ok source => [source]
    | .error _ => []
  | none => textsOf (byteLines input)

/-- A run echoes the texts that it scans. -/
theorem out_run (r : Command.Request) (read : String → Except ReadError (List UInt8))
    (input : List UInt8) :
    (r.run read input).out =
      (r.sources read input).flatMap fun source => (Report.ofSource none source).echo := by
  obtain ⟨verbose, script⟩ := r
  cases script with
  | none =>
    show (runPrompt verbose (byteLines input)).out = (textsOf (byteLines input)).flatMap _
    have nothing : (promptEnd (byteLines input)).out = [] := by
      unfold promptEnd
      split <;> rfl
    rw [runPrompt_eq, Transcript.printing, nothing, List.append_nil]
  | some path =>
    show (runScript verbose path (read path)).out = _
    simp only [Command.Request.sources, runScript]
    cases decodeFile (read path) with
    | error e => rfl
    | ok source => rw [List.flatMap_singleton]; exact List.append_nil _

end LoxScan
