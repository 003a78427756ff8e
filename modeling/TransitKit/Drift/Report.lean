import TransitKit.Drift.Check
import TransitKit.Host.Forms

/-!
# What a check leaves behind

After a check (or one of its steps) the repository's host is reported as JSON, next to
the step's own answer:

* `stdout`: everything printed on the console;
* `requests`: the requests sent to the portal (`Host.requestsJson`);
* `metadata`: when the summary folder exists, its files by name, each with its JSON
  value, or its text when it does not hold JSON;
* `specs`: when the description folder exists, the names in it;
* `generated`: when the package folder exists, the paths of its files inside it, sorted,
  without the shared infrastructure under `core/`, which the build copies unchanged.
-/

namespace TransitKit.Drift

/-- The path of a file inside a folder, if it is inside it. -/
def pathInside (dir p : String) : Option String :=
  if p.startsWith (dir ++ "/") then some (String.ofList (p.toList.drop (dir.length + 1))) else none

/-- The saved summaries, by name. -/
def Repository.metadataJson (r : Repository) (h : Host) : Json :=
  .obj ((h.children r.metadataDir).filterMap fun n =>
    (h.fileText? (joinPath r.metadataDir n)).map fun t => (n, (Json.parse? t).getD (.str t)))

/-- The generated files of the package, sorted, without `core/`. -/
def Repository.generatedJson (r : Repository) (h : Host) : Json :=
  .arr ((((h.files.filterMap fun (p, _) => pathInside r.packageDir p).filter
    (!·.startsWith "core/")).mergeSort (· ≤ ·)).map .str)

/-- The fields that report what a check left on its host. -/
def Repository.report (r : Repository) (h : Host) : List (String × Json) :=
  [("stdout", .str h.console), ("requests", h.requestsJson)] ++
  (if h.isDir r.metadataDir then [("metadata", r.metadataJson h)] else []) ++
  (if h.isDir r.specsDir then [("specs", .arr ((h.children r.specsDir).map .str))] else []) ++
  (if h.isDir r.packageDir then [("generated", r.generatedJson h)] else [])

theorem report_head (r : Repository) (h : Host) :
    (r.report h).head? = some ("stdout", .str h.console) := rfl

end TransitKit.Drift
