/-
# `LoxScan.Main` — the program

Reads the script or the input, runs, and prints what the run printed.  Nothing
is decided here but how the failures of the system are called.
-/
import LoxScan.Session

namespace LoxScan

/-- The number of a failure, which the system may give with its sign turned. -/
def failureNumber (code : UInt32) : Nat :=
  if code < 0x80000000 then code.toNat else (0 - code).toNat

/-- The failure that an error of the system is. -/
def ReadError.ofSystem (e : IO.Error) : ReadError :=
  match e with
  | .noFileOrDirectory .. => .noSuchFile
  | .permissionDenied .. => .other "Permission denied (os error 13)"
  | .inappropriateType _ code _ =>
    if failureNumber code = 20 then .notDirectory
    else if failureNumber code = 21 then .isDirectory
    else .other (toString e)
  | .invalidArgument _ code _ =>
    if failureNumber code = 36 then .nameTooLong else .other (toString e)
  | _ => .other (toString e)

/-- The content of the file at a path. -/
def readFile (path : String) : IO (Except ReadError (List UInt8)) := do
  if path.contains '\x00' then
    return .error .nullInName
  try
    return .ok (← IO.FS.readBinFile path).toList
  catch e =>
    return .error (.ofSystem e)

/-- All that is left of a stream. -/
partial def readAll (stream : IO.FS.Stream) (before : ByteArray) : IO ByteArray := do
  let block ← stream.read 65536
  if block.isEmpty then
    return before
  readAll stream (before ++ block)

/-- The run that a request asks for. -/
def perform (r : Command.Request) : IO Transcript := do
  match r.script with
  | some path =>
    let content ← readFile path
    return r.run (fun _ => content) []
  | none =>
    let input ← readAll (← IO.getStdin) .empty
    return r.run (fun _ => .error .noSuchFile) input.toList

end LoxScan

open LoxScan in
def main (arguments : List String) : IO UInt32 := do
  let transcript ←
    match Command.Request.ofArguments arguments with
    | .ok r => perform r
    | .error stop => pure stop.transcript
  IO.eprint (Transcript.printed transcript.err)
  IO.print (Transcript.printed transcript.out)
  return transcript.status.code.toUInt32
