import TransitKit.Toml.Reader
import TransitKit.Text.Blank
import TransitKit.Text.Newline
import TransitKit.Text.Pieces
import TransitKit.Fault

/-!
# Setting the version of a project description

The version of a project is set by rewriting one line of its description, so that
everything else in the file stays as written. The description must be TOML with a
`project` table holding `version`. The line rewritten is the first whose text, blanks
removed from its start, begins with `version` and that has a `=`: it becomes
`version = "new"` with its indentation kept, in single quotes when the old version
stood there in single quotes and not in double quotes. Lines are read with their ends
translated to line feeds, and every line written ends with one.

A line such as `versions = [...]` or a `version` key of another table can be the first
such line; it is the one rewritten.
-/

namespace TransitKit.Release

open Text

/-- What stands where the project description should be. -/
inductive ProjectFile where
  | absent
  | directory
  | text (content : String)

/-- Why the version could not be set. -/
inductive UpdateError where
  /-- There is no description. -/
  | missing
  /-- A directory stands where the description should be. -/
  | directory
  /-- The description is not TOML. -/
  | notToml
  /-- The description has no `project.version`. -/
  | noVersionKey
  /-- No line of the description sets the version, which reads as given. -/
  | noVersionLine (old : String)
  /-- `project` is a value that cannot be searched for a key; its kind is given. -/
  | notSearchable (kind : String)
  /-- `project` is a text or an array, which cannot be indexed by a key. -/
  | notIndexable (message : String)

/-- The text of a failure to set the version. -/
def UpdateError.text : UpdateError → String
  | .missing => "[Errno 2] No such file or directory: 'pyproject.toml'"
  | .directory => "[Errno 21] Is a directory: 'pyproject.toml'"
  | .notToml => "<toml error>"
  | .noVersionKey => "Could not find project.version in pyproject.toml"
  | .noVersionLine old => "Could not find version line with value " ++ old
  | .notSearchable kind => "argument of type '" ++ kind ++ "' is not iterable"
  | .notIndexable message => message

/-- The fault of a failure to set the version; the program states the text of a missing
key or version line itself. -/
def UpdateError.fault : UpdateError → Fault
  | .missing => .plain .fileMissing
  | .directory => .plain .isDirectory
  | .notToml => .plain .badToml
  | .noVersionKey => .withText .badValue UpdateError.noVersionKey.text
  | .noVersionLine old => .withText .badValue (UpdateError.noVersionLine old).text
  | .notSearchable _ => .plain .wrongShape
  | .notIndexable _ => .plain .wrongShape

/-- The pieces of a text between its line feeds, each but the last with its line feed given
back; the last is dropped when it is empty. -/
def withEnds : List String → List String
  | [] => []
  | [p] => if p.isEmpty then [] else [p]
  | p :: q :: ps => (p ++ "\n") :: withEnds (q :: ps)

/-- The lines of a text, each with its line feed; the last has none when the text does
not end with one. -/
def linesWithEnds (s : String) : List String := withEnds (splitAt '\n' s)

/-- Whether `project` holds the key `version`: a table by its keys, a text as a part of
it, an array as one of its items. -/
def holdsVersion : Toml.Value → Except UpdateError Bool
  | .table ms => .ok (ms.any (·.1 == "version"))
  | .string s => .ok ((s.splitOn "version").length > 1)
  | .array xs => .ok (xs.any fun x => match x with
      | .string t => t == "version"
      | _ => false)
  | v => .error (.notSearchable v.typeName)

/-- The version under `project`. -/
def versionOf : Toml.Value → Except UpdateError Toml.Value
  | .table ms => .ok ((Toml.Members.get? ms "version").getD (.table []))
  | .string _ => .error (.notIndexable "string indices must be integers, not 'str'")
  | _ => .error (.notIndexable "list indices must be integers or slices, not str")

/-- Whether a line sets the version: blanks removed from its start, it begins with
`version`, and it has a `=`. -/
def isVersionLine (line : String) : Bool :=
  (stripBlanks line).startsWith "version" && hasChar line '='

/-- The line that sets the new version, with the indentation of the old line and the
quotes the old version had. -/
def versionLine (line old new : String) : String :=
  let indent := String.ofList (line.toList.takeWhile isBlank)
  if holdsText line ("\"" ++ old ++ "\"") then indent ++ "version = \"" ++ new ++ "\"\n"
  else if holdsText line ("'" ++ old ++ "'") then indent ++ "version = '" ++ new ++ "'\n"
  else indent ++ "version = \"" ++ new ++ "\"\n"

/-- Rewrites the first line that sets the version; none when no line does. -/
def rewriteVersionLine (old new : String) : List String → Option (List String)
  | [] => none
  | line :: rest =>
    if isVersionLine line then some (versionLine line old new :: rest)
    else (rewriteVersionLine old new rest).map (line :: ·)

/-- The description with its version set, as it reads back, and the line printed. -/
def setVersion (file : ProjectFile) (new : String) : Except UpdateError (String × String) := do
  let content ← match file with
    | .absent => throw .missing
    | .directory => throw .directory
    | .text c => pure c
  let some data := Toml.parse? content | throw .notToml
  let some project := Toml.Members.get? data "project" | throw .noVersionKey
  if !(← holdsVersion project) then throw .noVersionKey
  let old := (← versionOf project).plainText
  let some lines := rewriteVersionLine old new (linesWithEnds (readBack content))
    | throw (.noVersionLine old)
  return (readBack (String.join lines), "Updated version to " ++ new ++ "\n")

theorem rewriteVersionLine_nil (old new : String) : rewriteVersionLine old new [] = none := rfl

end TransitKit.Release
