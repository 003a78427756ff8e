import TransitKit.Drift.Check

/-!
# The drift check on the command line

The command reads its arguments from the left: help, skipping the metadata, and the repository
root, each long option shortened to any prefix that names it alone. Help exits at once with
status 0; a misused option or a left-over argument exits with status 2. Otherwise the check
runs, and the command exits with status 1 when changes were found and 0 otherwise.
-/

namespace TransitKit.Drift

/-- What the arguments of the command ask for. -/
inductive Invocation where
  | help
  | refused
  | check (noMetadata : Bool)
deriving Repr, BEq, Inhabited

/-- The long options of the command. -/
def longOptions : List String := ["--help", "--no-metadata", "--repo-root"]

/-- The long option an argument names, by itself or as the only option it starts. -/
def longOption? (name : String) : Option String :=
  if longOptions.contains name then some name
  else match longOptions.filter (·.startsWith name) with
    | [o] => some o
    | _ => none

/-- Whether an argument reads as a negative number, which counts as a plain value. -/
def isNegativeNumber (a : String) : Bool :=
  match a.toList with
  | '-' :: rest =>
    let (whole, frac) := (rest.takeWhile Char.isDigit, rest.dropWhile Char.isDigit)
    match frac with
    | [] => !whole.isEmpty
    | '.' :: ds => !ds.isEmpty && ds.all Char.isDigit
    | _ => false
  | _ => false

/-- Whether an argument reads as an option rather than a value. -/
def isOptionLike (a : String) : Bool :=
  a.startsWith "-" && a.length > 1 && !isNegativeNumber a && !a.contains ' '

/-- Reads the arguments from the left, with whether metadata is off and whether an
argument was left over. -/
def readArgs (noMetadata leftOver : Bool) : List String → Invocation
  | [] => if leftOver then .refused else .check noMetadata
  | a :: rest =>
    if a == "--" then (if leftOver || !rest.isEmpty then .refused else .check noMetadata)
    else if !isOptionLike a then readArgs noMetadata true rest
    else if a.startsWith "--" then
      let (name, value) := match a.splitOn "=" with
        | n :: v :: more => (n, some ("=".intercalate (v :: more)))
        | _ => (a, none)
      match longOption? name, value with
      | some "--help", none => .help
      | some "--no-metadata", none => readArgs true leftOver rest
      | some "--repo-root", some _ => readArgs noMetadata leftOver rest
      | some "--repo-root", none =>
        match rest with
        | v :: more => if isOptionLike v || v == "--" then .refused else readArgs noMetadata leftOver more
        | [] => .refused
      | some _, _ => .refused
      | none, _ => readArgs noMetadata true rest
    else if a == "-h" then .help
    else if a.startsWith "-h" then
      if (a.toList.drop 1).all (· == 'h') then .help else .refused
    else readArgs noMetadata true rest

/-- The help of the command. -/
def helpText : String :=
  "usage: compare_specs.py [-h] [--no-metadata] [--repo-root REPO_ROOT]\n\n" ++
  "Detect TfL API specification changes by rebuilding and comparing models\n\n" ++
  "options:\n" ++
  "  -h, --help            show this help message and exit\n" ++
  "  --no-metadata         Don't save change metadata to JSON file\n" ++
  "  --repo-root REPO_ROOT\n" ++
  "                        Root directory of the git repository (default: parent\n" ++
  "                        of script directory)"

/-- Runs the command on its arguments, to which the repository's root is added: its exit
status. -/
def runCommand (r : Repository) (argv : List String) : Job Nat := do
  match readArgs false false (argv ++ ["--repo-root", r.root]) with
  | .help =>
    Host.say helpText
    return 0
  | .refused => return 2
  | .check noMetadata =>
    let (changed, _) ← compare r (!noMetadata)
    return if changed then 1 else 0

theorem readArgs_empty : readArgs false false [] = .check false := rfl

end TransitKit.Drift
