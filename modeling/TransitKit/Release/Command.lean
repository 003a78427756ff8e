import TransitKit.Release.Bump
import TransitKit.Release.ProjectVersion

/-!
# Release command lines

Two commands drive a release:

* `determine_version_bump.py OLD NEW` prints the bump between two revisions on standard
  output and its log on standard error. Fewer than two arguments print the usage and
  exit with status 1; further arguments are ignored.
* `update_pyproject_version.py VERSION` sets the version of the project description in
  the working directory. Any other number of arguments prints the usage. A failure
  prints one error line and exits with status 1: a missing file, a failure to read the
  description or find its version (including text that is not TOML) by its own text,
  any other failure after `Failed to update version:`.
-/

namespace TransitKit.Release

/-- What a command shows: its exit status and what it printed on standard output and on
standard error. -/
structure CommandRun where
  exitCode : Nat
  stdout : String
  stderr : String

/-- The lines of a log as printed, each ending with a line feed. -/
def printedLines (lines : List String) : String := String.join (lines.map (· ++ "\n"))

/-- The bump command on its arguments, with the libraries it reads versions and
requirements with, the project description of each revision that has one and the order in
which requirements yield their specifiers. -/
def bumpCommand (lib : ReleaseLibrary) (visit : List Specifier → List Specifier)
    (describe : String → Option String) : List String → Outcome CommandRun
  | oldRef :: newRef :: _ => do
    let (b, lines) ← determineBump lib visit describe oldRef newRef productionDependencies
    return ⟨0, b.name ++ "\n", printedLines lines⟩
  | _ => .ok ⟨1, "", "Usage: determine_version_bump.py <old_ref> <new_ref>\n"⟩

/-- Whether a failure to set the version is reported by its own text: a missing key or
version line, or a description that is not TOML. -/
def UpdateError.plainReport : UpdateError → Bool
  | .notToml | .noVersionKey | .noVersionLine _ => true
  | _ => false

/-- The update command on its arguments and the description it works on, with the
description afterwards. -/
def updateCommand (file : ProjectFile) : List String → CommandRun × ProjectFile
  | [version] =>
    match setVersion file version with
    | .ok (content, out) => (⟨0, out, ""⟩, .text content)
    | .error .missing => (⟨1, "", "Error: pyproject.toml not found\n"⟩, file)
    | .error e =>
      if e.plainReport then (⟨1, "", "Error: " ++ e.text ++ "\n"⟩, file)
      else (⟨1, "", "Error: Failed to update version: " ++ e.text ++ "\n"⟩, file)
  | _ => (⟨1, "", "Usage: update_pyproject_version.py <new_version>\n"⟩, file)

theorem updateCommand_usage (file : ProjectFile) :
    (updateCommand file []).1.exitCode = 1 := rfl

end TransitKit.Release
