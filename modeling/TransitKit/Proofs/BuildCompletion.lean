import Mathlib
import TransitKit.Proofs.ClientFiles
import TransitKit.Proofs.ProcessedSchemas
import TransitKit.Codegen.Package

/-!
# Builds that complete

A build reads the API documents of a folder, generates their models and clients, and writes
them. It completes when the mappings can be read, some document is accepted, and every accepted
document has the shape the generator walks and schemas ready to be generated, several of them
possibly under one name (`Spec.DocumentsReady`). Validation accepts more than this: a summary
next to the operations of a path item is read as an operation, and the build fails.
-/

namespace TransitKit.Codegen

open Spec Model

/-- A build of a folder of accepted documents that the generator can walk, with readable
mappings and ready schemas, completes: the output folder is made and the statistics are
reported. -/
theorem buildPackage_completes {mappings : List (String × Json)} (hm : MappingsReady mappings)
    {files : List (String × FolderEntry)}
    (hshape : ∀ f ∈ files, ∀ spec, loadSpec f.1 f.2 = some spec → DocumentShape spec)
    (haccepted : ∃ f ∈ files, loadSpec f.1 f.2 ≠ none)
    (hready : DocumentsReady mappings (files.filterMap fun f => loadSpec f.1 f.2))
    {specPath outPath : String} (hspec : specPath ≠ "") (hout : outPath ≠ "")
    (config : BuildConfig) :
    (buildPackage mappings (.text specPath) (some files) (.text outPath) config).outputMade = true ∧
      ∃ stats, (buildPackage mappings (.text specPath) (some files) (.text outPath) config).result =
        .ok stats := by
  obtain ⟨p, hp, hclients, htitles⟩ := processSpecs_ok hm hshape
  have hfound : p.titles.isEmpty = false := by
    rw [Bool.eq_false_iff, ne_eq, List.isEmpty_iff]
    intro hnil
    obtain ⟨f, hf, hload⟩ := haccepted
    exact hload (htitles.mp hnil f hf)
  obtain ⟨gen, hgen, hgenReady⟩ :=
    generateModels_ready (processSpecs_schemasReady hm hshape hready hp)
  obtain ⟨modelFs, hmodelFs⟩ : ∃ files, modelFiles gen.resolution.registry gen.resolution.graph
      gen.resolution.circular gen.resolution.order gen.modelDescriptions
      gen.fieldDescriptions = .ok files := modelFiles_ready hgenReady.models
  obtain ⟨clientFs, hclientFs⟩ :=
    packageFiles_ok hclients config.baseUrl.text (gen.folds.map fun x => (x.1, Json.str x.2))
  have hs : specPath.isEmpty = false := by simpa using hspec
  have ho : outPath.isEmpty = false := by simpa using hout
  simp only [buildPackage, hs, ho, hp, hfound, hgen, ok_bind, Bool.false_eq_true, if_false]
  simp only [pure, Except.pure, hmodelFs, hclientFs]
  exact ⟨trivial, _, rfl⟩

/-! ## A document with place schemas -/

/-- A place: an identifier, and a place near it. -/
def placeSchema : Json :=
  .obj [("type", .str "object"),
    ("properties", .obj [("id", .obj [("type", .str "string")]),
      ("near", .obj [("$ref", .str (schemaRef "Tfl.Place"))])]),
    ("required", .arr [.str "id"])]

/-- A list of places. -/
def placeListSchema : Json :=
  .obj [("type", .str "array"), ("items", .obj [("$ref", .str (schemaRef "Tfl.Place"))])]

/-- An operation whose successful answer is a list of places. -/
def placesOperation : Json :=
  .obj [("operationId", .str "Mini_Places"),
    ("responses", .obj [("200", .obj [("description", .str "OK"),
      ("content", .obj [("application/json", .obj [("schema", placeListSchema)])])])])]

/-- A document with the place schemas, two lists of places and one operation. -/
def placesApi : Json :=
  .obj [("openapi", .str "3.0.1"),
    ("info", .obj [("title", .str "Mini API"), ("version", .str "1")]),
    ("servers", .arr [.obj [("url", .str "https://api.example.com/Mini")]]),
    ("paths", .obj [("/places", .obj [("get", placesOperation)])]),
    ("components", .obj [("schemas", .obj [("Tfl.Place", placeSchema),
      ("Tfl.PlaceArray", placeListSchema), ("Tfl.Places", placeListSchema)])])]

/-- Mappings that rename the place schemas, both lists to one name. -/
def placesMappings : List (String × Json) :=
  [("Mini API", .obj [("Tfl.Place", .str "Place"), ("Tfl.PlaceArray", .str "PlaceArray"),
    ("Tfl.Places", .str "PlaceArray")])]

theorem placesApi_schemas : documentSchemas placesApi =
    [("Tfl.Place", placeSchema), ("Tfl.PlaceArray", placeListSchema),
      ("Tfl.Places", placeListSchema)] := rfl

theorem placesApi_renaming : documentRenaming placesMappings placesApi =
    [("Tfl.Place", "Place"), ("Tfl.PlaceArray", "PlaceArray"), ("Tfl.Places", "PlaceArray")] := by
  decide +kernel

theorem placeSchema_object : declaredType placeSchema = some "object" := rfl

theorem placeListSchema_array : declaredType placeListSchema = some "array" := rfl

theorem placeRef_objectRef :
    ObjectRef placesMappings [placesApi] placesApi (schemaRef "Tfl.Place") :=
  ⟨"Tfl.Place", rfl, by decide, by rw [placesApi_schemas]; simp, by decide +kernel⟩

/-- The properties of a place read as annotations once renamed: a text, and a place. -/
theorem placeProperties_fieldSchema :
    ∀ q ∈ [("id", Json.obj [("type", .str "string")]),
        ("near", Json.obj [("$ref", .str (schemaRef "Tfl.Place"))])],
      FieldSchema q.1 (mapRefs (renameText (documentRenaming placesMappings placesApi)) q.2) := by
  intro q hq
  rw [placesApi_renaming]
  rcases List.mem_pair.mp hq with rfl | rfl
  · have hid : mapRefs (renameText [("Tfl.Place", "Place"), ("Tfl.PlaceArray", "PlaceArray"),
        ("Tfl.Places", "PlaceArray")]) (.obj [("type", .str "string")]) =
        .obj [("type", .str "string")] := by
      simp [mapRefs, mapRefMembers]
    rw [hid]
    exact .scalar rfl rfl (by decide) rfl (fun xs => by simp [kindOf, Json.lookup])
  · have hnear : mapRefs (renameText [("Tfl.Place", "Place"), ("Tfl.PlaceArray", "PlaceArray"),
        ("Tfl.Places", "PlaceArray")]) (.obj [("$ref", .str (schemaRef "Tfl.Place"))]) =
        .obj [("$ref", .str (schemaRef "Place"))] := by
      simp only [mapRefs, mapRefMembers, if_true]
      rw [renameText_schemaRef _ (by decide) (by decide)]
      rfl
    rw [hnear]
    exact .ref rfl (by decide +kernel) (by decide +kernel)

/-- The document's schemas are ready: the place is an object of ready properties, and the two
lists of places, placed under one name, and the array model of the answer are arrays of it. -/
theorem placesApi_ready : DocumentsReady placesMappings [placesApi] where
  settled spec hspec := by
    obtain rfl := List.mem_singleton.mp hspec
    rw [placesApi_renaming]
    decide
  objects spec hspec := by
    obtain rfl := List.mem_singleton.mp hspec
    rw [placesApi_schemas]
    decide
  properties spec hspec e he hobj v hv := by
    obtain rfl := List.mem_singleton.mp hspec
    rw [placesApi_schemas] at he
    rcases List.mem_cons.mp he with rfl | he
    · cases hv
      exact ⟨_, rfl, by decide, placeProperties_fieldSchema⟩
    · rcases List.mem_pair.mp he with rfl | rfl <;> simp [placeListSchema_array] at hobj
  required spec hspec e he hobj v hv := by
    obtain rfl := List.mem_singleton.mp hspec
    rw [placesApi_schemas] at he
    rcases List.mem_cons.mp he with rfl | he
    · cases hv
      exact ⟨_, rfl⟩
    · rcases List.mem_pair.mp he with rfl | rfl <;> simp [placeListSchema_array] at hobj
  items spec hspec e he harray := by
    obtain rfl := List.mem_singleton.mp hspec
    rw [placesApi_schemas] at he
    have hlist : ∃ ifs, placeListSchema.get? "items" = some (.obj ifs) ∧
        ∀ v, Json.lookup ifs "$ref" = some v →
          ∃ r, v = .str r ∧ ObjectRef placesMappings [placesApi] placesApi r :=
      ⟨_, rfl, fun v hv => by cases hv; exact ⟨_, rfl, placeRef_objectRef⟩⟩
    rcases List.mem_cons.mp he with rfl | he
    · simp [placeSchema_object] at harray
    · rcases List.mem_pair.mp he with rfl | rfl <;> exact hlist
  answers spec hspec d hd r hr := by
    obtain rfl := List.mem_singleton.mp hspec
    have hops : operationsOf placesApi = [placesOperation] := by cbv
    rw [hops, List.mem_singleton] at hd
    subst hd
    have hans : arrayAnswerRef placesOperation = some (schemaRef "Tfl.Place") := by cbv
    rw [hans, Option.some.injEq] at hr
    subst hr
    refine ⟨placeRef_objectRef, ?_⟩
    dsimp only
    exact ⟨by decide +kernel, by unfold Naming.ValidName; decide +kernel⟩
  valid spec hspec := by
    obtain rfl := List.mem_singleton.mp hspec
    rw [placesApi_schemas]
    unfold Naming.ValidName
    decide +kernel

theorem placesOperation_reads : OperationView.Reads ⟨"Mini_Places", []⟩ placesOperation where
  obj := rfl
  operationId := rfl
  named := by decide
  parameters := ⟨[], rfl, .nil⟩
  description v hv := by cases hv
  responses := ⟨_, rfl, rfl, rfl, fun c hc => by
    cases hc
    refine ⟨rfl, fun m hm => ?_⟩
    cases hm
    refine ⟨rfl, fun s hs => ?_⟩
    cases hs
    exact ⟨⟨rfl, fun v hv => by cases hv⟩, fun i hi => by
      cases hi
      exact ⟨rfl, fun v hv _ => by cases hv; rfl⟩⟩⟩

theorem placesApi_documentShape : DocumentShape placesApi where
  client := {
    obj := rfl
    info := ⟨_, rfl, rfl, ⟨"Mini API", rfl⟩, fun v hv => by cases hv⟩
    servers := fun v hv => by
      cases hv
      exact ⟨_, [], rfl, rfl, fun u hu => by cases hu; exact ⟨_, rfl, by decide⟩⟩
    paths := ⟨_, rfl, fun p hp => by
      rw [List.mem_singleton] at hp
      subst hp
      refine ⟨by decide, _, rfl, fun o ho => ?_⟩
      rw [List.mem_singleton] at ho
      subst ho
      exact ⟨rfl, fun _ _ _ => ⟨_, placesOperation_reads⟩⟩⟩ }
  components := ⟨_, rfl, rfl, fun v hv => by cases hv; rfl⟩

/-- A folder that holds that document. -/
def placesFolder : List (String × FolderEntry) := [("a.json", .value placesApi)]

/-- The build of the document with place schemas completes: both lists of places and the array
model of the operation's answer are placed under one name, and the last one is kept. -/
theorem placesApi_build_completes :
    MappingsReady placesMappings ∧
      (∀ f ∈ placesFolder, ∀ spec, loadSpec f.1 f.2 = some spec → DocumentShape spec) ∧
      (∃ f ∈ placesFolder, loadSpec f.1 f.2 ≠ none) ∧
      DocumentsReady placesMappings (placesFolder.filterMap fun f => loadSpec f.1 f.2) ∧
      (buildPackage placesMappings (.text "specs") (some placesFolder) (.text "out")
        { diagrams := false }).outputMade = true ∧
      ∃ stats, (buildPackage placesMappings (.text "specs") (some placesFolder) (.text "out")
        { diagrams := false }).result = .ok stats := by
  have hm : MappingsReady placesMappings := by
    intro e he
    rw [placesMappings, List.mem_singleton] at he
    subst he
    exact ⟨[("Tfl.Place", "Place"), ("Tfl.PlaceArray", "PlaceArray"), ("Tfl.Places", "PlaceArray")],
      rfl⟩
  have hload : loadSpec "a.json" (.value placesApi) = some placesApi := by cbv
  have hshape : ∀ f ∈ placesFolder, ∀ spec, loadSpec f.1 f.2 = some spec → DocumentShape spec := by
    intro f hf spec hspec
    rw [placesFolder, List.mem_singleton] at hf
    subst hf
    rw [hload, Option.some_inj] at hspec
    exact hspec ▸ placesApi_documentShape
  have hacc : ∃ f ∈ placesFolder, loadSpec f.1 f.2 ≠ none :=
    ⟨_, List.mem_singleton_self _, by rw [hload]; simp⟩
  have hready :
      DocumentsReady placesMappings (placesFolder.filterMap fun f => loadSpec f.1 f.2) := by
    rw [placesFolder, List.filterMap_cons, List.filterMap_nil, hload]
    exact placesApi_ready
  exact ⟨hm, hshape, hacc, hready,
    buildPackage_completes hm hshape hacc hready (by decide) (by decide) _⟩

/-! ## A summary beside an operation -/

/-- An operation with an identifier and a response to a successful call. -/
def miniOperation : Json :=
  .obj [("operationId", .str "Mini_Y"),
    ("responses", .obj [("200", .obj [("description", .str "OK")])])]

/-- A document of one path, whose path item has the given members. -/
def miniApi (item : List (String × Json)) : Json :=
  .obj [("openapi", .str "3.0.1"),
    ("info", .obj [("title", .str "Mini API"), ("version", .str "1")]),
    ("servers", .arr [.obj [("url", .str "https://api.example.com/Mini")]]),
    ("paths", .obj [("/y", .obj item)]),
    ("components", .obj [("schemas", .obj [])])]

/-- A folder that holds that document. -/
def miniFolder (item : List (String × Json)) : List (String × FolderEntry) :=
  [("a.json", .value (miniApi item))]

/-- With a summary next to the operation, validation still accepts the document and the build
fails: the search for array models reads the summary as an operation, and a text has no
members to get. -/
theorem summaryPath_build_fails :
    loadSpec "a.json" (.value (miniApi [("summary", .str "Y things"), ("get", miniOperation)])) =
        some (miniApi [("summary", .str "Y things"), ("get", miniOperation)]) ∧
      (buildPackage [] (.text "specs")
        (some (miniFolder [("summary", .str "Y things"), ("get", miniOperation)])) (.text "out")
        { diagrams := false }).result = .error (buildFailure (.plain .noSuchMember)) :=
  ⟨by cbv, by cbv⟩

end TransitKit.Codegen
