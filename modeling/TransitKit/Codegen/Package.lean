import TransitKit.Spec.Processor
import TransitKit.Model.Pipeline
import TransitKit.Codegen.ModelModule
import TransitKit.Codegen.ClientModule
import TransitKit.Diagram.Mermaid

/-!
# Building a client package

A package is built from a folder of API descriptions into an output folder: the paths are
checked, the output folder is made with the client infrastructure, the descriptions are
combined, the models and the client modules are written, and, unless switched off, the
diagrams are drawn. A missing folder or a bad value fails as it is; any other failure is
reported as a failed build. Files written before a failure stay.
-/

namespace TransitKit.Codegen

/-- The modules of the client infrastructure copied into the `core` folder of every
package, in order of name. -/
def infrastructureModules : List String :=
  ["__init__.py", "async_client.py", "async_rest_client.py", "client.py", "config.py",
    "http_backends/__init__.py", "http_backends/async_httpx_client.py",
    "http_backends/httpx_client.py", "http_backends/requests_client.py", "http_client.py",
    "package_models.py", "response.py", "rest_client.py"]

/-- The base address of the clients when none is configured. -/
def defaultBaseUrl : String := "https://api.tfl.gov.uk"

/-- How a build is configured: the base address of the clients, which can be any value
and is written as its text, and whether diagrams are drawn. -/
structure BuildConfig where
  baseUrl : Json := .str defaultBaseUrl
  diagrams : Bool := true

/-- The configuration given by a mapping; an empty mapping, or none, configures
nothing. -/
def BuildConfig.ofJson : Json → BuildConfig
  | .obj [] => {}
  | .obj fs =>
    { baseUrl := (Json.lookup fs "base_url").getD (.str defaultBaseUrl),
      diagrams := ((Json.lookup fs "generate_diagrams").map Json.truthy).getD true }
  | _ => {}

/-- A path given to a build: a text, or a value of another class, named. -/
inductive PathArg where
  | text (s : String)
  | other (className : String)

/-- The counts a build reports. -/
structure BuildStats where
  models : Nat
  clients : Nat
  circular : Nat
  dependencies : Nat

/-- What a build did: whether it made the output folder, the files it wrote there
(besides the infrastructure), and its statistics or failure. -/
structure BuildRun where
  outputMade : Bool
  files : List SourceFile
  result : Outcome BuildStats

/-- Failures that a build passes on as they are: missing files and bad values. -/
def passesBuild : FaultKind → Bool
  | .fileMissing | .badValue | .badJson | .badToml | .badVersion => true
  | _ => false

/-- The failure of a build over a fault: the fault itself when it passes, else a failed
build whose text quotes the key of a missing key. -/
def buildFailure (f : Fault) : Fault :=
  if passesBuild f.kind then f
  else
    let f := if f.kind == .missingKey then { f with message := f.message.map quoteText } else f
    Fault.wrap .failed "Build failed: " f

/-- The client of a configuration module written under `endpoints/`. -/
def configClient? (path : String) : Option String :=
  match path.splitOn "/" with
  | ["endpoints", name] =>
    if name.endsWith "_config.py" then some (String.ofList (name.toList.take (name.length - 10)))
    else none
  | _ => none

/-- The diagrams drawn from the client files of a package. -/
def diagramFiles (clientFiles : List SourceFile) (res : Model.Resolution) : List SourceFile :=
  let configs := clientFiles.filterMap fun f => (configClient? f.path).map fun c => (c, f.text)
  let clients := Diagram.clientModels configs
  [⟨"class_diagram.mmd", Diagram.classDiagram res.graph res.order clients⟩,
    ⟨"api_mindmap.mmd", Diagram.apiMindmap clients⟩]

/-- The failure of a path that is not a text. -/
def pathTypeFailure (what className : String) : Fault :=
  buildFailure (.withText .wrongShape (what ++ " must be a string, got <class '" ++ className ++ "'>"))

/-- Builds a package from the description files of a folder (none when the folder does
not exist), with the given type mappings. -/
def buildPackage (mappings : List (String × Json)) (specPath : PathArg)
    (folder : Option (List (String × Spec.FolderEntry))) (outPath : PathArg)
    (config : BuildConfig) : BuildRun :=
  match specPath, outPath with
  | .other c, _ => ⟨false, [], .error (pathTypeFailure "spec_path" c)⟩
  | _, .other c => ⟨false, [], .error (pathTypeFailure "output_path" c)⟩
  | .text spec, .text out =>
    if spec.isEmpty then ⟨false, [], .error (.withText .badValue "spec_path cannot be empty")⟩
    else if out.isEmpty then ⟨false, [], .error (.withText .badValue "output_path cannot be empty")⟩
    else
      match folder with
      | none => ⟨false, [], .error (.withText .fileMissing ("Specification path does not exist: " ++ spec))⟩
      | some files =>
        let models : Outcome (Spec.Processed × Model.Generated) := do
          let p ← Spec.processSpecs mappings files
          if p.titles.isEmpty then throw (.withText .badValue ("No valid specifications found in " ++ spec))
          return (p, ← Model.generateModels (.obj p.combined.components))
        match models with
        | .error f => ⟨true, [], .error (buildFailure f)⟩
        | .ok (p, g) =>
          let res := g.resolution
          match modelFiles res.registry res.graph res.circular res.order g.modelDescriptions
              g.fieldDescriptions with
          | .error f => ⟨true, [], .error (buildFailure f)⟩
          | .ok modelFs =>
            let renamed := g.folds.map fun (k, v) => (k, Json.str v)
            match packageFiles p.combined.specs config.baseUrl.text renamed with
            | .error f => ⟨true, modelFs, .error (buildFailure f)⟩
            | .ok clientFs =>
              let drawn := if config.diagrams then diagramFiles clientFs res else []
              ⟨true, modelFs ++ clientFs ++ drawn,
                .ok ⟨g.registry.entries.length, p.titles.length, res.circular.length,
                  res.graph.edges.length⟩⟩

/-- Joins two parts of a relative path. -/
def joinPath (a b : String) : String := if a.isEmpty then b else a ++ "/" ++ b

/-- Whether a path exists in a tree given by its folders and files (each file with the
folders above it); the empty path is the root of the tree. -/
def pathExists (tree : List String) (p : String) : Bool :=
  p.isEmpty || tree.any fun q => q == p || (p ++ "/").isPrefixOf q

/-- Whether a folder of a tree holds a built package: the folder exists and has the
folders `models` and `endpoints`, each with an `__init__.py`. A path with a null
character never exists. -/
def outputValid (tree : List String) (folder : String) : Bool :=
  !folder.contains (Char.ofNat 0) && pathExists tree folder &&
    ["models", "endpoints"].all fun d =>
      pathExists tree (joinPath folder d) && pathExists tree (joinPath (joinPath folder d) "__init__.py")

theorem buildFailure_missing (f : Fault) (h : f.kind = .fileMissing) : buildFailure f = f := by
  simp [buildFailure, passesBuild, h]

end TransitKit.Codegen
