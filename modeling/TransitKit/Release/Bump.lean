import TransitKit.Release.Library
import TransitKit.Toml.Reader
import TransitKit.Json.Literal
import TransitKit.Fault

/-!
# Release bumps from dependency changes

The next release is a major, minor or patch release, decided by how the production
dependencies changed between two revisions of the project description: a dependency added
is a minor change, one removed a major change, one whose version grew changes as its
version did, and anything else changes nothing. The largest change wins, a patch when there
is none, and every decision is logged. Versions and requirements are read through a
`ReleaseLibrary`; a requirement's specifiers are met in the order `visit` gives, since the
set that holds them yields them in an order of its own.
-/

namespace TransitKit.Release

open Text

/-- The dependencies checked when none are named. -/
def productionDependencies : List String := ["pydantic", "httpx", "requests"]

/-- The items iterated over when a value stands for a list of dependencies: the items of
an array, the keys of a table, the characters of a text. Other values cannot be
iterated. -/
def dependencyItems : Toml.Value → Outcome (List Toml.Value)
  | .array xs => .ok xs
  | .table ms => .ok (ms.map fun (k, _) => .string k)
  | .string s => .ok (s.toList.map fun c => .string (String.singleton c))
  | _ => .error (.plain .wrongShape)

/-- Whether a specifier's version is taken before the others: `>=`, `==` and `~=`. -/
def Specifier.pinsVersion (s : Specifier) : Bool :=
  s.operator == ">=" || s.operator == "==" || s.operator == "~="

/-- The version a requirement gives when `visit` orders its specifiers: of them the first
with `>=`, `==` or `~=`, else the first, none without specifiers. -/
def Requirement.version? (visit : List Specifier → List Specifier) (r : Requirement) :
    Option String :=
  let specs := visit r.specifiers
  match specs.find? Specifier.pinsVersion with
  | some s => some s.version
  | none => specs.head?.map (·.version)

/-- The items listed under `project.dependencies` of a project description. The text must
be TOML; `project` must be a table and `project.dependencies` something to iterate. -/
def listedDependencies (content : String) : Outcome (List Toml.Value) := do
  let some data := Toml.parse? content | throw (.plain .badToml)
  let project := (Toml.Members.get? data "project").getD (.table [])
  let deps ← match project with
    | .table ms => pure ((Toml.Members.get? ms "dependencies").getD (.array []))
    | _ => throw (.plain .noSuchMember)
  dependencyItems deps

/-- The version listed items give a dependency: that of the first requirement of its name
(compared in lower case) that gives one. Items that are not texts or do not read as
requirements are passed over. -/
def requiredVersion (lib : ReleaseLibrary) (visit : List Specifier → List Specifier)
    (items : List Toml.Value) (dep : String) : Option String :=
  items.findSome? fun item =>
    match item with
    | .string s =>
      match lib.requirement? (stripBlanks s) with
      | some r => if lowerText r.name == lowerText dep then r.version? visit else none
      | none => none
    | _ => none

/-- The version of a dependency in a project description, if it lists one. -/
def dependencyVersion (lib : ReleaseLibrary) (visit : List Specifier → List Specifier)
    (content dep : String) : Outcome (Option String) := do
  let items ← listedDependencies content
  return requiredVersion lib visit items dep

/-- Reads a version or fails with the text of the failure. -/
def readVersion (V : VersionScheme) (s : String) : Except String V.Ver :=
  match V.parse? s with
  | some v => .ok v
  | none => .error (V.invalid s)

/-- The bump between two version texts, or the text of the failure to read the first
that is not a version. -/
def versionBump (V : VersionScheme) (old new : String) : Except String (Option Bump) := do
  let o ← readVersion V old
  let n ← readVersion V new
  return V.bumpBetween o n

/-- The bump between two version texts; both must be versions. -/
def compareVersions (V : VersionScheme) (old new : String) : Outcome (Option Bump) :=
  (versionBump V old new).mapError fun _ => .plain .badVersion

/-- The larger of the current bump and the bump a change asks for. -/
def applyBump (current : Bump) : Option Bump → Bump
  | some b => current.max b
  | none => current

/-- A version for the log: missing and empty versions read `NOT FOUND`. -/
def shownVersion : Option String → String
  | some v => if v.isEmpty then "NOT FOUND" else v
  | none => "NOT FOUND"

/-- The bump one dependency asks for and the lines it logs. -/
def dependencyChange (V : VersionScheme) (dep : String) (old new : Option String)
    (oldRef newRef : String) : Option Bump × List String :=
  let head := "[INFO] " ++ dep ++ ": " ++ shownVersion old ++ " (" ++ oldRef ++ ") vs " ++
    shownVersion new ++ " (" ++ newRef ++ ")"
  match old, new with
  | none, some n => (some .minor, [head, "[WARN] " ++ dep ++ ": New dependency added in " ++ newRef ++ " (" ++ n ++ ")"])
  | some _, none => (some .major, [head, "[WARN] " ++ dep ++ ": Dependency removed from " ++ newRef])
  | none, none => (none, [head, "[WARN] " ++ dep ++ ": Dependency not found in either ref"])
  | some o, some n =>
    if o == n then (none, [head])
    else
      let arrow := " (" ++ o ++ " → " ++ n ++ ")"
      match versionBump V o n with
      | .ok (some b) => (some b, [head, "[INFO] " ++ dep ++ ": " ++ b.title ++ " version bump detected" ++ arrow])
      | .ok none => (none, [head, "[WARN] " ++ dep ++ ": Version changed but not a standard bump" ++ arrow])
      | .error msg => (none, [head, "[WARN] " ++ dep ++ ": Failed to parse version: " ++ msg])

/-- The text of a failed `git show` of the project description at a revision. -/
def gitShowFailure (ref : String) : String :=
  "Command '[" ++ ", ".intercalate (["git", "show", ref ++ ":pyproject.toml"].map quoteText) ++
    "]' returned non-zero exit status 128."

/-- Why going through the dependencies stopped early: a description that is not TOML,
with the lines logged so far, or another failure to read a description. -/
inductive Halt where
  | unreadable (lines : List String)
  | failed (f : Fault)

/-- One dependency's turn: its versions in the two descriptions, its bump folded into
the current one and its lines logged. -/
def bumpStep (lib : ReleaseLibrary) (visit : List Specifier → List Specifier)
    (oldText newText oldRef newRef : String) (acc : Bump × List String) (dep : String) :
    Except Halt (Bump × List String) :=
  let versions := do
    let o ← dependencyVersion lib visit oldText dep
    let n ← dependencyVersion lib visit newText dep
    return (o, n)
  match versions with
  | .ok (o, n) =>
    let (b, lines) := dependencyChange lib.versions dep o n oldRef newRef
    .ok (applyBump acc.1 b, acc.2 ++ lines)
  | .error f =>
    if f.kind == .badToml then .error (.unreadable (acc.2 ++ ["Error: Failed to parse pyproject.toml: <toml error>"]))
    else .error (.failed f)

/-- The bump between two revisions and the lines logged, given the project description
of each revision that has one. A revision without a description, or a description that
is not TOML, gives a patch with an error line; other failures to read a description are
failures. -/
def determineBump (lib : ReleaseLibrary) (visit : List Specifier → List Specifier)
    (describe : String → Option String) (oldRef newRef : String) (deps : List String) :
    Outcome (Bump × List String) :=
  let gitFailure (ref : String) : Bump × List String :=
    (.patch, ["Error: Failed to get pyproject.toml from git: " ++ gitShowFailure ref])
  match describe oldRef, describe newRef with
  | none, _ => .ok (gitFailure oldRef)
  | some _, none => .ok (gitFailure newRef)
  | some oldText, some newText =>
    match deps.foldlM (bumpStep lib visit oldText newText oldRef newRef) (.patch, []) with
    | .ok (b, lines) => .ok (b, lines ++ ["[INFO] Determined bump type: " ++ b.name])
    | .error (.unreadable lines) => .ok (.patch, lines)
    | .error (.failed f) => .error f

theorem applyBump_none (b : Bump) : applyBump b none = b := rfl

end TransitKit.Release
