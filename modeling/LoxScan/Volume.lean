/-
# `LoxScan.Volume` — reading a file by its path

A volume is a tree of named files and directories below the working directory.
A path is walked one name at a time, and the walk fails where a system call
would: every name is looked up in a directory, a name of more than 255 bytes is
refused before it is looked up, and an empty name, which a doubled or a final
slash makes, asks for a directory and stays in it.  The parents of the working
directory are directories in which nothing is found.
-/

namespace LoxScan

/-! ## Failures -/

/-- Why a file cannot be read. -/
inductive ReadError where
  | noSuchFile
  | notDirectory
  | isDirectory
  | nameTooLong
  | nullInName
  | notUtf8
  | other (reason : String)
deriving DecidableEq

/-- The text of a failure; the system's own come with their number. -/
def ReadError.reason : ReadError → String
  | noSuchFile => "No such file or directory (os error 2)"
  | notDirectory => "Not a directory (os error 20)"
  | isDirectory => "Is a directory (os error 21)"
  | nameTooLong => "File name too long (os error 36)"
  | nullInName => "file name contained an unexpected NUL byte"
  | notUtf8 => "stream did not contain valid UTF-8"
  | other reason => reason

/-! ## Trees -/

/-- What a path can lead to. -/
inductive Entry where
  | file (content : List UInt8)
  | directory
deriving DecidableEq

/-- Files and directories by the names on the way to them; the directories on the way are there
without being listed. -/
structure Volume where
  entries : List (List String × Entry)

/-- A place in or above a volume. -/
inductive Location where
  | inside (path : List String)
  | above
deriving DecidableEq

namespace Volume

/-- What is at a path of names. -/
def entry? (v : Volume) (path : List String) : Option Entry :=
  match v.entries.lookup path with
  | some entry => some entry
  | none =>
    if path = [] ∨ v.entries.any (fun entry => path.isPrefixOf entry.1) then some .directory
    else none

/-- Whether there is a directory at a place. -/
def isDirectory (v : Volume) : Location → Bool
  | .inside path => v.entry? path == some .directory
  | .above => true

/-- The place that a name leads to from a place. -/
def step (v : Volume) (here : Location) (name : String) : Except ReadError Location :=
  if !v.isDirectory here then .error .notDirectory
  else if name = "" ∨ name = "." then .ok here
  else if name = ".." then
    .ok <| match here with
      | .inside [] | .above => .above
      | .inside path => .inside path.dropLast
  else if 255 < name.utf8ByteSize then .error .nameTooLong
  else
    match here with
    | .above => .error .noSuchFile
    | .inside path =>
      if (v.entry? (path ++ [name])).isSome then .ok (.inside (path ++ [name]))
      else .error .noSuchFile

/-- The place that a path leads to from the working directory. -/
def walk (v : Volume) (path : String) : Except ReadError Location :=
  if path.contains '\x00' then .error .nullInName
  else if path = "" then .error .noSuchFile
  else if 4096 ≤ path.utf8ByteSize then .error .nameTooLong
  else (path.splitOn "/").foldlM v.step (.inside [])

/-- The content of the file at a path. -/
def read (v : Volume) (path : String) : Except ReadError (List UInt8) := do
  match ← v.walk path with
  | .above => .error .isDirectory
  | .inside names =>
    match v.entry? names with
    | some (.file content) => .ok content
    | some .directory => .error .isDirectory
    | none => .error .noSuchFile

end Volume

end LoxScan
