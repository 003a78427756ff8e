import TransitKit.Portal.Crawler
import TransitKit.Revision.Patch
import TransitKit.Drift.Summary
import TransitKit.Codegen.Package

/-!
# Checking generated code for drift

The API may change under the client package. A check fetches the current descriptions from
the portal, rebuilds the package from them, compares the result with what is committed (or,
outside version control, the two folders with each other), and sums the changes up, printing
the summary and saving it as metadata where only the ten newest are kept. Every step reports
its progress; a failing step ends the check, and changes found make it exit with status 1.
-/

namespace TransitKit.Drift

open Host

/-- A repository under check. -/
structure Repository where
  root : String
  /-- The committed files by path from the root; none outside version control. -/
  committed : Option (List (String × String))
  /-- Whether the build script is there. -/
  hasBuilder : Bool
  /-- The interpreter that runs the build script. -/
  interpreter : String
  /-- The type mappings of the build. -/
  mappings : List (String × Json)
  /-- The time a summary is made. -/
  now : String

/-- The folder of the API descriptions. -/
def Repository.specsDir (r : Repository) : String := r.root ++ "/TfL_OpenAPI_specs"

/-- The folder of the client package. -/
def Repository.packageDir (r : Repository) : String := r.root ++ "/pydantic_tfl_api"

/-- The build script. -/
def Repository.builder (r : Repository) : String := r.root ++ "/scripts/build_with_coordinator.py"

/-- The folder of saved summaries. -/
def Repository.metadataDir (r : Repository) : String := r.root ++ "/.github/spec_changes"

/-- The text of a command that exited with a status other than zero. -/
def commandFailure (cmd : List String) (status : Nat) : String :=
  "Command '[" ++ ", ".intercalate (cmd.map quoteText) ++ "]' returned non-zero exit status " ++
    toString status ++ "."

/-- Fetches the descriptions; whether that succeeded. -/
def fetchSpecs (r : Repository) : Job Bool := do
  say "📥 Fetching latest TfL API specifications..."
  tryCatch (do
    makeDir r.specsDir true
    Portal.saveAll r.specsDir
    say "✅ Specs fetched successfully"
    return true) fun e => do
      say ("❌ Error fetching specs: " ++ e.text)
      return false

/-- The entries of the description folder as the build reads them. -/
def specEntries (h : Host) (dir : String) : List (String × Spec.FolderEntry) :=
  (h.children dir).map fun n =>
    match h.fileText? (joinPath dir n) with
    | some t => (n, .text t)
    | none => (n, .directory)

/-- Runs the build script: its exit status and what it printed on standard error. The
package's files are written as the build makes them. -/
def runBuilder (r : Repository) : Job (Nat × String) := do
  if !r.hasBuilder then
    return (2, "python3: can't open file " ++ quoteText r.builder ++ ": [Errno 2] No such file or directory\n")
  let h ← get
  let folder := if h.isDir r.specsDir then some (specEntries h r.specsDir) else none
  let run := Codegen.buildPackage r.mappings (.text r.specsDir) folder (.text r.packageDir) {}
  if run.outputMade then
    makeDir r.packageDir true
    writeFile (r.packageDir ++ "/py.typed") ""
  run.files.forM fun f => do
    let p := joinPath r.packageDir f.path
    makeDir (parentPath p) true
    writeFile p f.contents
  return (if run.result matches .ok _ then 0 else 1, "")

/-- Rebuilds the package; whether that succeeded. -/
def rebuildModels (r : Repository) : Job Bool := do
  say "\n🔨 Rebuilding pydantic models..."
  let (status, errors) ← runBuilder r
  if status == 0 then
    say "✅ Models rebuilt successfully"
    return true
  say ("❌ Error rebuilding models: " ++
    commandFailure [r.interpreter, r.builder, r.specsDir, r.packageDir] status)
  if !errors.isEmpty then say ("   stderr: " ++ errors)
  return false

/-- Whether a path from the root lies in the models or endpoints of the package. -/
def isGenerated (p : String) : Bool :=
  ["pydantic_tfl_api/models", "pydantic_tfl_api/endpoints"].any fun d =>
    p == d || p.startsWith (d ++ "/")

/-- The files of a folder and of its subfolders, by path inside it, with their texts. -/
def treeOf (h : Host) (dir : String) : List (String × String) :=
  ((h.files.filter fun (p, _) => p.startsWith (dir ++ "/")).map fun (p, f) =>
    (String.ofList (p.toList.drop (dir.length + 1)), f.text)).mergeSort fun a b => a.1 ≤ b.1

/-- Compares the committed generated code with the rebuilt one: whether it changed, and
the patch. -/
def gitDiff (r : Repository) : Job (Bool × String) := do
  say "\n🔍 Checking for changes in generated code..."
  let h ← get
  match r.committed with
  | some files =>
    let patch := Revision.patchText ((files.filter (isGenerated ·.1)).map fun (p, before) =>
      ⟨p, before, h.fileText? (r.root ++ "/" ++ p)⟩)
    return (!patch.isEmpty, patch)
  | none =>
    let models := r.packageDir ++ "/models"
    let endpoints := r.packageDir ++ "/endpoints"
    if h.isDir models && h.isDir endpoints && treeOf h models == treeOf h endpoints then
      return (false, "")
    say ("❌ Error running git diff: " ++ commandFailure ["git", "diff", "--stat", models, endpoints] 1)
    return (false, "")

/-- Whether a file name is that of a saved summary. -/
def isSummaryName (n : String) : Bool :=
  n.startsWith "change_" && n.endsWith ".json" && n.length ≥ 12

/-- Keeps the `keep` newest saved summaries of a folder and removes the others; a
negative `keep` removes that many of the oldest. -/
def cleanupMetadata (dir : String) (keep : Int) : Job Unit := do
  let h ← get
  if !h.isDir dir then return
  let dated := (h.children dir).filterMap fun n =>
    if isSummaryName n then (h.entry? (joinPath dir n)).map fun f => (n, f.mtime) else none
  let newestFirst := dated.mergeSort fun a b => a.2 ≥ b.2
  let start := if keep ≥ 0 then keep.toNat else newestFirst.length - keep.natAbs
  (newestFirst.drop start).forM fun (n, _) => do
    removeFile (joinPath dir n)
    say ("   Cleaned up old metadata: " ++ n)

/-- Saves a summary under the name of its time and digest, then keeps the ten newest. -/
def saveMetadata (r : Repository) (summary : Json) : Job Unit := do
  let dir := r.metadataDir
  makeDir dir true
  let stamp ← match ← lift (summary.member "timestamp") with
    | .str s => pure s
    | v => throw (Json.noMethod v "replace")
  let digest := (← lift (summary.member "diff_hash")).text
  let file := dir ++ "/" ++ metadataName stamp digest
  writeFile file (Json.write (.indented 2 false) summary)
  say ("\n📝 Change metadata saved to: " ++ file)
  cleanupMetadata dir 10

/-- The whole check: whether changes were found, and their summary. -/
def compare (r : Repository) (save : Bool) : Job (Bool × Option ChangeSummary) := do
  if !(← fetchSpecs r) then return (false, none)
  if !(← rebuildModels r) then return (false, none)
  let (changed, patch) ← gitDiff r
  if !changed then
    say "\n✅ No changes detected - TfL API specifications are unchanged"
    return (false, none)
  say "\n⚠️  Changes detected in generated code!"
  let s := ChangeSummary.ofPatch patch r.now
  say "\n📊 Change Summary:"
  say ("   Files changed: " ++ toString s.files.length)
  say ("   Additions: +" ++ toString s.additions)
  say ("   Deletions: -" ++ toString s.deletions)
  say ("   Diff hash: " ++ s.digest)
  if save then saveMetadata r s.toJson
  return (true, some s)

theorem specsDir_root (r : Repository) : r.specsDir = r.root ++ "/TfL_OpenAPI_specs" := rfl

end TransitKit.Drift
