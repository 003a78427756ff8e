import TransitKit.Spec.Mappings
import TransitKit.Naming.Names
import TransitKit.Url.Parts

/-!
# Processing API descriptions

A description is kept when it has `openapi`, `info` with a `title` and a `version`, and
`components` and `paths` objects. Each API's schemas are then renamed by its type mappings: a
schema moves to the class name of its new name, and every `$ref` ending in an old name follows
it. The schemas and paths of all descriptions are combined, each path under the path of its
API's first server, and every operation whose 200 answer is a JSON array of an existing schema
gets an array model. Member lookups fail as on values of the wrong kind; the search for array
models passes over answers whose content is not a mapping.
-/

namespace TransitKit.Spec

open Text

/-- Whether a description has the members and shapes generation needs. -/
def validSpec (spec : Json) : Outcome Bool := do
  for k in ["openapi", "info", "components", "paths"] do
    if !(← spec.holds? k) then return false
  match ← spec.getOr? "info" (.obj []) with
  | .obj fs => if !(fs.any (·.1 == "title") && fs.any (·.1 == "version")) then return false
  | _ => return false
  match ← spec.getOr? "components" (.obj []) with
  | .obj _ => pure ()
  | _ => return false
  match ← spec.getOr? "paths" (.obj []) with
  | .obj _ => return true
  | _ => return false

/-- The last segment of a reference. -/
def refName (ref : String) : String := lastPiece '/' ref

/-- A reference renamed by a mapping: every occurrence of its last segment is replaced
when the mapping names that segment. -/
def renameRef (m : List (String × Json)) (ref : String) : Outcome Json :=
  let name := refName ref
  match Json.lookup m name with
  | some (.str n) => .ok (.str (replaceAll ref name n))
  | some _ => .error (.plain .wrongShape)
  | none => .ok (.str ref)

mutual
/-- A value with every text `$ref` renamed by a mapping. -/
def updateRefs (m : List (String × Json)) : Json → Outcome Json
  | .obj fs => .obj <$> updateMembers m fs
  | .arr xs => .arr <$> updateItems m xs
  | j => .ok j

/-- Items with every text `$ref` renamed. -/
def updateItems (m : List (String × Json)) : List Json → Outcome (List Json)
  | [] => .ok []
  | x :: xs => do return (← updateRefs m x) :: (← updateItems m xs)

/-- Members with every text `$ref` renamed. -/
def updateMembers (m : List (String × Json)) :
    List (String × Json) → Outcome (List (String × Json))
  | [] => .ok []
  | (k, v) :: rest => do
    let v ← match k, v with
      | "$ref", .str s => renameRef m s
      | _, v => updateRefs m v
    return (k, v) :: (← updateMembers m rest)
end

/-- Moves a schema from an old name to a new one: the old is removed, and the new put in
the place of a schema of that name or else at the end. -/
def moveSchema (schemas : List (String × Json)) (old new : String) : List (String × Json) :=
  match Json.lookup schemas old with
  | some v => Json.setField (schemas.filter (·.1 != old)) new v
  | none => schemas

/-- The schemas of a description after renaming: those listed under an old name move
to the new one, and each move is recorded in `names`. -/
def renameSchemas (m : List (String × String)) (schemas : List (String × Json))
    (names : List (String × Json)) : List (String × Json) × List (String × Json) :=
  m.foldl (fun (acc : List (String × Json) × List (String × Json)) (old, new) =>
    if acc.1.any (·.1 == old) then (moveSchema acc.1 old new, Json.setField acc.2 old (.str new))
    else acc) (schemas, names)

/-- A description with its schemas renamed by the type mappings of an API, and the
record of moves. An API without mappings leaves both alone. -/
def updateEntities (mappings : List (String × Json)) (spec : Json) (api : Json)
    (names : List (String × Json)) : Outcome (Json × List (String × Json)) := do
  let entry ← match api with
    | .str a => pure (Json.lookup mappings a)
    | .arr _ | .obj _ => throw (.plain .wrongShape)
    | _ => pure none
  let some entry := entry | return (spec, names)
  let m ← (← mappingMembers entry).mapM fun (old, new) => match new with
    | .str n => pure (old, Naming.className n)
    | _ => throw (.plain .wrongShape)
  let components ← spec.getOr? "components" (.obj [])
  let schemas ← components.getOr? "schemas" (.obj [])
  let (spec, names) ← match spec, components, schemas with
    | .obj _, .obj cfs, .obj sfs =>
      let (sfs, names) := renameSchemas m sfs names
      if (spec.get? "components").isSome && (Json.lookup cfs "schemas").isSome then
        pure (spec.set "components" (components.set "schemas" (.obj sfs)), names)
      else pure (spec, names)
    | _, _, .obj _ => pure (spec, names)
    | _, _, other => do
      for (old, _) in m do
        if ← other.holds? old then throw (.plain .noSuchMember)
      pure (spec, names)
  let refs := m.map fun (k, v) => (k, Json.str v)
  return (← updateRefs refs spec, names)

/-- The path of an API: the part of its first server address after the third slash,
with a slash before it, or nothing. -/
def apiPathOf (spec : Json) : Outcome String := do
  let servers ← spec.getOr? "servers" (.arr [.obj []])
  let url ← if servers.truthy then
      match servers with
      | .arr (s :: _) => s.getOr? "url" (.str "")
      | .str t => (Json.str (String.singleton (t.toList.headD ' '))).getOr? "url" (.str "")
      | .obj _ => throw (.plain .missingKey)
      | _ => throw (.plain .wrongShape)
    else pure (.str "")
  match url with
  | .str u =>
    match splitAt '/' u with
    | _ :: _ :: _ :: rest@(_ :: _) => return "/" ++ "/".intercalate rest
    | _ => return ""
  | _ => throw (.plain .noSuchMember)

/-- What combining descriptions gives: the schemas and paths, in order, the record of
renamed schemas, and the descriptions with their schemas renamed. -/
structure Combined where
  components : List (String × Json) := []
  paths : List (String × Json) := []
  names : List (String × Json) := []
  specs : List Json := []

/-- Combines descriptions: each is renamed by its API's mappings, its schemas are added
to the schemas, and its paths, prefixed by its API path, to the paths. -/
def combine (mappings : List (String × Json)) (specs : List Json) (names : List (String × Json)) :
    Outcome Combined :=
  specs.foldlM (fun (c : Combined) spec => do
    let api ← (← spec.index? "info").index? "title"
    let apiPath ← apiPathOf spec
    let (spec, names) ← updateEntities mappings spec api c.names
    let schemas ← (← spec.getOr? "components" (.obj [])).getOr? "schemas" (.obj [])
    let schemas ← mappingMembers schemas
    let paths ← mappingMembers (← spec.getOr? "paths" (.obj []))
    let paths ← paths.mapM fun (p, methods) => do
      match Url.joinPaths? apiPath p with
      | some q => pure (q, methods)
      | none => throw (.plain .badValue)
    return { components := schemas.foldl (fun acc (k, v) => Json.setField acc k v) c.components,
             paths := paths.foldl (fun acc (k, v) => Json.setField acc k v) c.paths,
             names := names,
             specs := c.specs ++ [spec] }) { names := names }

/-- The array model of an operation, if its 200 response is a JSON array of a
referenced schema that exists. Responses whose content cannot be searched or indexed are
passed over. -/
def arrayTypeOf (components : Json) (details : Json) : Outcome (Option (String × Json)) := do
  let opId ← details.getOr? "operationId" .null
  if !opId.truthy then return none
  let success ← (← details.getOr? "responses" (.obj [])).getOr? "200" .null
  if !success.truthy then return none
  if !(← success.holds? "content") then return none
  let content ← match success.index? "content" with
    | .ok c => pure c
    | .error _ => return none
  match content.holds? "application/json" with
  | .ok true => pure ()
  | _ => return none
  let body ← match content.index? "application/json" with
    | .ok b => pure b
    | .error _ => return none
  let schema ← body.getOr? "schema" (.obj [])
  let kind ← schema.getOr? "type" (.str "")
  if kind.str? != some "array" then return none
  let items ← schema.getOr? "items" (.obj [])
  let ref ← items.getOr? "$ref" (.str "")
  if !ref.truthy then return none
  let ref ← match ref with
    | .str r => pure r
    | _ => throw (.plain .noSuchMember)
  let name := refName ref
  match components.holds? name with
  | .ok true =>
    return some (Naming.arrayModelName name,
      .obj [("type", .str "array"), ("items", .obj [("$ref", .str ref)])])
  | _ => return none

/-- The array models of the operations of the paths, by name. -/
def arrayTypes (paths : Json) (components : Json) : Outcome (List (String × Json)) := do
  let all ← (← mappingMembers paths).mapM fun (_, methods) => do
    (← mappingMembers methods).filterMapM fun (_, details) => arrayTypeOf components details
  return all.flatten.foldl (fun acc (k, v) => Json.setField acc k v) []

/-- What processing description files gives: the titles of the descriptions kept, and
the combined schemas with array models, paths and record of renamed schemas. -/
structure Processed where
  titles : List Json := []
  combined : Combined := {}

/-- What a file of a description folder holds: a text, a value written as JSON, or, for
a directory, nothing to read. -/
inductive FolderEntry where
  | text (s : String)
  | value (j : Json)
  | directory

/-- The failure of reading a description folder that does not exist. -/
def missingFolder (path : String) : Fault := .withText .fileMissing ("Directory not found: " ++ path)

/-- The description of a file, if it is one: its name ends in `.json`, it is a file,
its text is JSON, and the description is valid. -/
def loadSpec (name : String) (entry : FolderEntry) : Option Json := do
  if !name.endsWith ".json" then none
  let spec ← match entry with
    | .text s => Json.parse? s
    | .value j => some j
    | .directory => none
  match validSpec spec with
  | .ok true => some spec
  | _ => none

/-- Processes description files, in order of name: loads the valid descriptions,
combines them, and adds the array models. -/
def processSpecs (mappings : List (String × Json)) (files : List (String × FolderEntry)) :
    Outcome Processed := do
  let sorted := files.mergeSort fun a b => a.1 ≤ b.1
  let specs := sorted.filterMap fun (n, c) => loadSpec n c
  let titles ← specs.mapM fun s => do (← s.index? "info").index? "title"
  let c ← combine mappings specs []
  let arrays ← arrayTypes (.obj c.paths) (.obj c.components)
  let components := arrays.foldl (fun acc (k, v) => Json.setField acc k v) c.components
  return ⟨titles, { c with components := components }⟩

theorem moveSchema_absent (schemas : List (String × Json)) (old new : String)
    (h : Json.lookup schemas old = none) : moveSchema schemas old new = schemas := by
  simp [moveSchema, h]

end TransitKit.Spec
