import TransitKit.Portal.Request
import TransitKit.Json.Checked
import TransitKit.Text.CaseMap

/-!
# Crawling the API portal

The API portal lists the APIs of the service with their details, operations and the schemas
their answers use. A crawl turns one API into an OpenAPI 3.0 description: its title and server
path from the details, an entry per operation with one response per status, and the schemas
named, fetched once each and merged into the components, a later definition replacing an
earlier one. The order of the fetches is a parameter. Values are used as they come, and saving
a crawl writes one description per API and reports the APIs that fail.
-/

namespace TransitKit.Portal

open Host Json

/-- The address of the portal. -/
def portalBase : String := "https://api-portal.tfl.gov.uk"

/-- The version of the portal's interface that every request asks for. -/
def apiVersion : String := "2022-04-01-preview"

/-- The address of an API's page on the portal. -/
def apiAddress (apiId : String) : String := portalBase ++ "/developer/apis/" ++ apiId

/-- The APIs the portal lists. -/
def allApis : Job Json := do
  let data ← getJson (portalBase ++ "/developer/apis") [("api-version", apiVersion)]
  lift (data.memberOr "value" (.arr []))

/-- The details of an API. -/
def apiDetails (apiId : String) : Job Json :=
  getJson (apiAddress apiId) [("expandApiVersionSet", "true"), ("api-version", apiVersion)]

/-- The operations of an API. -/
def apiOperations (apiId : String) : Job Json := do
  let data ← getJson (apiAddress apiId ++ "/operations") [("$top", "50"), ("api-version", apiVersion)]
  lift (data.memberOr "value" (.arr []))

/-- The details of an operation of an API. -/
def operationDetails (apiId operationId : String) : Job Json :=
  getJson (apiAddress apiId ++ "/operations/" ++ operationId) [("api-version", apiVersion)]

/-- A schema of an API. -/
def schemaOf (apiId schemaId : String) : Job Json :=
  getJson (apiAddress apiId ++ "/schemas/" ++ schemaId) [("api-version", apiVersion)]

/-- An OpenAPI description built from the portal, with the number of its paths and of
its schemas. -/
structure Description where
  spec : Json
  paths : Nat
  schemas : Nat
deriving Inhabited

/-- The reference to a schema of the components. -/
def schemaRef (schemaId : Json) : Json :=
  .obj [("schema", .obj [("$ref", .str ("#/components/schemas/" ++ schemaId.text))])]

/-- The content of one response: its representations by content type, and the schemas
they name, added to `wanted` in order of first mention. -/
def responseContent (apiId : Json) (response : Json) (wanted : List Json) :
    Except Failure (Dict × List Json) := do
  if !(← response.holds "representations") then return ({}, wanted)
  let reps ← (← response.member "representations").items
  reps.foldlM (fun (content, wanted) rep => do
    let contentType ← rep.memberOr "contentType" (.str "application/json")
    let schemaId ← rep.memberOr "schemaId" .null
    if !schemaId.truthy then return (content, wanted)
    hashable apiId
    hashable schemaId
    let wanted := if wanted.any (sameValue · schemaId) then wanted else wanted ++ [schemaId]
    return (← content.insert contentType (schemaRef schemaId), wanted)) ({}, wanted)

/-- The responses of an operation from its details, by status, with the schemas they
name. -/
def operationResponses (apiId : Json) (details : Json) (wanted : List Json) :
    Except Failure (Dict × List Json) := do
  if !(← details.holds "responses") then return ({}, wanted)
  let responses ← details.member "responses"
  if !responses.truthy then return ({}, wanted)
  (← responses.items).foldlM (fun (acc, wanted) response => do
    let status := (← response.memberOr "statusCode" (.int 200)).text
    let description ← response.memberOr "description" (.str "OK")
    let (content, wanted) ← responseContent apiId response wanted
    return (acc.set (.str status) (.obj [("description", description), ("content", content.toJson)]),
      wanted)) ({}, wanted)

/-- Adds one operation to the paths, and the schemas it names to `wanted`. -/
def addOperation (apiId : Json) (acc : Dict × List Json) (operation : Json) :
    Job (Dict × List Json) := do
  let (paths, wanted) := acc
  let operationId ← lift (operation.member "id")
  say ("  Processing operation: " ++ operationId.text)
  let details ← operationDetails apiId.text operationId.text
  let template ← lift (operation.member "urlTemplate")
  lift (hashable template)
  let method ← lift (lowered Text.lowerText (← lift (operation.member "method")))
  let summary ← lift (operation.member "name")
  let description ← lift (operation.memberOr "description" (.str ""))
  let (responses, wanted) ← lift (operationResponses apiId details wanted)
  let entry : Json := .obj [("summary", summary), ("description", description),
    ("operationId", operationId), ("responses", responses.toJson)]
  let byMethod := ((paths.get? template).getD (.obj [])).set method entry
  return (paths.set template byMethod, wanted)

/-- The schemas a fetched schema document defines, under `document`, `components` and
`schemas`; none when one of them is missing. -/
def definedSchemas (data : Json) : Except Failure (Option Json) := do
  if !(← data.holds "document") then return none
  let document ← data.member "document"
  if !(← document.holds "components") then return none
  let components ← document.member "components"
  if !(← components.holds "schemas") then return none
  return some (← components.member "schemas")

/-- Merges the components of one schema into the schemas gathered so far. -/
def mergeSchema (apiId : Json) (schemas : Dict) (schemaId : Json) : Job Dict := do
  let data ← schemaOf apiId.text schemaId.text
  match ← lift (definedSchemas data) with
  | some defined => lift (schemas.update defined)
  | none => return schemas

/-- Fetches one schema; a failure of the request is reported and the schema left out. -/
def fetchSchema (apiId : Json) (schemas : Dict) (schemaId : Json) : Job Dict :=
  tryCatch (mergeSchema apiId schemas schemaId) fun e =>
    if isRequestFailure e.kind then do
      say ("    Warning: Could not fetch schema " ++ schemaId.text ++ ": " ++ e.text)
      return schemas
    else throw e

/-- What a description takes from an API's details and operations: its title, description
and server path, its paths, and the schemas they name, in order of first mention. -/
structure Outline where
  title : Json
  description : Json
  path : Json
  paths : Dict
  wanted : List Json

/-- Reads the details and the operations of an API. -/
def outline (apiId : Json) : Job Outline := do
  let name := apiId.text
  say ("Building OpenAPI spec for " ++ name ++ "...")
  let details ← apiDetails name
  let operations ← apiOperations name
  let title ← lift (details.memberOr "name" apiId)
  let description ← lift (details.memberOr "description"
    (.str ("APIs relating to " ++ name ++ " and similar services")))
  let path ← lift (details.memberOr "path" apiId)
  let (paths, wanted) ← (← lift operations.items).foldlM (addOperation apiId) ({}, [])
  return ⟨title, description, path, paths, wanted⟩

/-- The members of a description before its components. -/
def Outline.head (o : Outline) : List (String × Json) :=
  [("openapi", .str "3.0.1"),
    ("info", .obj [("title", o.title), ("description", o.description), ("version", .str "1.0")]),
    ("servers", .arr [.obj [("url", .str ("https://api.tfl.gov.uk/" ++ o.path.text))]]),
    ("paths", o.paths.toJson)]

/-- The description of an outline with the schemas merged. -/
def Outline.finish (o : Outline) (schemas : Dict) : Description :=
  ⟨.obj (o.head ++ [("components", .obj [("schemas", schemas.toJson)])]), o.paths.size, schemas.size⟩

/-- Builds the OpenAPI description of an API from the portal. The schemas named are fetched
in the order `visit` puts them in: the program keeps them in a hash set, whose order the
runtime's hashing of their names decides. -/
def buildDescription (visit : List Json → List Json) (apiId : Json) : Job Description := do
  let o ← outline apiId
  say ("  Fetching " ++ toString o.wanted.length ++ " schemas...")
  let schemas ← (visit o.wanted).foldlM (fetchSchema apiId) {}
  return o.finish schemas

/-- Builds and saves the description of one listed API; a failure is reported. -/
def saveApi (dir : String) (api : Json) : Job Unit := do
  let apiId ← lift (api.member "id")
  let apiName := (← lift (api.member "name")).text
  say ("\nProcessing API: " ++ apiName ++ " (ID: " ++ apiId.text ++ ")")
  tryCatch (do
    let d ← buildDescription id apiId
    let file := joinPath dir (apiId.text ++ ".json")
    writeFile file (Json.write (.indented 2 false) d.spec)
    say ("  Saved: " ++ file))
    fun e => say ("  Error processing " ++ apiName ++ ": " ++ e.text)

/-- Saves the description of every listed API into a folder, which is made if its
parent exists. -/
def saveAll (outputDir : String) : Job Unit := do
  let dir := normalizePath outputDir
  makeDir dir false
  let apis ← allApis
  say ("Found " ++ toString (← lift apis.size) ++ " APIs")
  (← lift apis.items).forM (saveApi dir)

/-- The demonstration crawl: the Line API is built and saved as `Line_test.json`; a
failure is reported. -/
def demonstrate : Job Unit := do
  say "Testing with Line API..."
  tryCatch (do
    let d ← buildDescription id (.str "Line")
    say ("Generated spec with " ++ toString d.paths ++ " paths and " ++ toString d.schemas ++ " schemas")
    writeFile "Line_test.json" (Json.write (.indented 2 true) d.spec)
    say "Saved Line API spec to Line_test.json")
    fun e => say ("Error: " ++ e.text)

theorem apiAddress_text (apiId : String) :
    apiAddress apiId = "https://api-portal.tfl.gov.uk/developer/apis/" ++ apiId := rfl

end TransitKit.Portal
