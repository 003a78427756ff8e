import TransitKit.Json.Access
import TransitKit.Json.Literal
import TransitKit.Naming.Names
import TransitKit.Typing.FieldType
import TransitKit.Url.Parts
import TransitKit.Text.Blank

/-!
# Client methods of API operations

Each operation of an API document becomes a method of the generated client: a signature with
the required parameters first, a docstring with the description, the query path, the model and
a line per parameter, and a body that passes the path parameters by position and the query
parameters by name. The model is read from the 200 response. Everything is read as the
generator reads it, and fails where it fails on documents of the wrong shape.
-/

namespace TransitKit.Codegen

open Typing Text

/-- The name of the generic response model. -/
def genericModelName : String := "GenericResponseModel"

/-- A name as written in code: a reserved word gets the suffix `_field`. A list or an
object cannot be a name. -/
def codeName? (v : Json) : Outcome Json :=
  match v with
  | .str s => .ok (.str (Naming.fieldName s))
  | .arr _ | .obj _ => .error (.plain .wrongShape)
  | v => .ok v

/-- The class of a parameter's schema type. -/
def parameterClass (p : Json) : Outcome TypeClass := do
  let schema ← p.index? "schema"
  openApiClass? (← schema.index? "type")

/-- Whether a parameter is required. -/
def isRequired (p : Json) : Outcome Bool := do
  return (← p.getOr? "required" (.bool false)).truthy

/-- The parameters of a method: required ones first, each with its class, optional ones
with the default `None`. -/
def functionParameters (params : List Json) : Outcome String := do
  let keyed ← params.mapM fun p => do return (p, ← isRequired p)
  let sorted := (keyed.filter (·.2)) ++ (keyed.filter (!·.2))
  let items ← sorted.mapM fun (p, required) => do
    let name ← codeName? (← p.index? "name")
    let cls ← parameterClass p
    if required then return name.text ++ ": " ++ cls.name
    else return name.text ++ ": " ++ cls.name ++ " | None = None"
  return ", ".intercalate items

/-- The names of the parameters that sit in a given place. -/
def parametersIn (params : List Json) (place : String) : Outcome (List Json) :=
  params.filterMapM fun p => do
    if (← p.index? "in").str? == some place then return some (← p.index? "name")
    else return none

/-- The names of the path parameters and of the query parameters, in order. -/
def classifyParameters (params : List Json) : Outcome (List Json × List Json) := do
  let path ← parametersIn params "path"
  let query ← parametersIn params "query"
  return (path, query)

/-- The first line of a method: its name from the operation identifier, its parameters
and its result type. -/
def methodSignature (operationId : String) (params : List Json) (model : String)
    (awaited : Bool) : Outcome String := do
  let ps ← functionParameters params
  let name := Naming.operationName operationId "Query"
  let head := if awaited then "    async def " else "    def "
  return head ++ name ++ "(self, " ++ ps ++ ") -> ResponseModel[" ++ model ++ "] | ApiError:\n"

/-- The docstring line of a parameter: its code name, its class, its description on
one line, and its example when it has a true value; blanks at the end are removed. -/
def parameterLine (p : Json) : Outcome String := do
  let name ← codeName? (← p.index? "name")
  let cls ← parameterClass p
  let desc ← match ← p.getOr? "description" (.str "") with
    | .str d => pure (" ".intercalate (words (d.replace "\r" " ")))
    | _ => throw (.plain .noSuchMember)
  let sample ← p.getOr? "example" (.str "")
  let shown := if sample.truthy then "Example: `" ++ sample.text ++ "`" else ""
  return stripBlanksRight ("    `" ++ name.text ++ "`: " ++ cls.name ++ " - " ++ desc ++ ". " ++ shown)

/-- The docstring of a method. -/
def methodDocstring (details : Json) (fullPath model : String) (params : List Json) :
    Outcome String := do
  let description ← match ← details.getOr? "description" (.str "No description in the OpenAPI spec.") with
    | .str d => pure (stripBlanks d)
    | _ => throw (.plain .noSuchMember)
  let doc := description ++ "\n" ++ "\n  Query path: `" ++ fullPath ++ "`\n" ++
    "\n  `ResponseModel.content` contains `models." ++ model ++ "` type.\n"
  let paramText ← if params.isEmpty then pure "        No parameters required."
    else do pure ("\n".intercalate (← params.mapM parameterLine))
  return "        '''\n        " ++ doc ++ "\n\n  Parameters:\n" ++ paramText ++ "\n        '''\n"

/-- A list of names joined by commas; every name must be a text. -/
def joinNames (names : List Json) : Outcome String := do
  let texts ← names.mapM fun n => match n with
    | .str s => pure s
    | _ => throw (.plain .wrongShape)
  return ", ".intercalate texts

/-- The body of a method: one call that sends the request, with the path parameters as
positional values and the query parameters as endpoint arguments. -/
def methodImplementation (operationId : String) (params : List Json) (awaited : Bool) :
    Outcome String := do
  let (path, query) ← classifyParameters params
  let pathText ← joinNames (← path.mapM codeName?)
  let queryItems ← query.mapM fun q => do
    return "'" ++ q.text ++ "': " ++ (← codeName? q).text
  let queryText := ", ".intercalate queryItems
  let args := if queryText.isEmpty then "endpoint_args=None"
    else "endpoint_args=\x7b " ++ queryText ++ " \x7d"
  let wait := if awaited then "await " else ""
  let call := "        return " ++ wait ++ "self._send_request_and_deserialize(base_url, endpoints['" ++
    operationId ++ "'], "
  if path.isEmpty then return call ++ args ++ ")\n\n"
  else return call ++ "params=[" ++ pathText ++ "], " ++ args ++ ")\n\n"

/-- The last segment of a reference path. -/
def lastSegment (ref : String) : String := lastPiece '/' ref

/-- The model a 200 response holds; with `onlyArrays`, only array models are named.
`renamed` maps model names that were merged into others. -/
def modelNameOfResponse (response : Json) (onlyArrays : Bool)
    (renamed : List (String × Json)) : Outcome String := do
  if !response.truthy then return genericModelName
  if !(← response.holds? "content") then return genericModelName
  let content ← response.index? "content"
  if !(← content.holds? "application/json") then return genericModelName
  let body ← content.index? "application/json"
  if !(← body.holds? "schema") then return genericModelName
  let schema ← body.index? "schema"
  let kind ← schema.getOr? "type" (.str "")
  if kind.str? == some "array" then
    let items ← schema.getOr? "items" (.obj [])
    let ref ← items.getOr? "$ref" (.str "")
    if !ref.truthy then return genericModelName
    let ref ← match ref with
      | .str r => pure r
      | _ => throw (.plain .noSuchMember)
    let base := Naming.className (lastSegment ref)
    let mapped := match renamed.lookup base with
      | some (.str m) => m
      | some v => v.text
      | none => base
    return Naming.className mapped ++ "Array"
  else if !onlyArrays then
    let ref ← schema.getOr? "$ref" (.str "")
    if !ref.truthy then return genericModelName
    match ref with
    | .str r => return Naming.className (lastSegment r)
    | _ => throw (.plain .noSuchMember)
  else return genericModelName

/-- Joins an API path and an operation path: the operation path, without its leading
slashes, resolved against the API path with a slash appended. -/
def joinApiPath (apiPath : String) (path : Json) : Outcome String :=
  match path with
  | .str p =>
    match Url.joinPaths? apiPath p with
    | some s => .ok s
    | none => .error (.plain .badValue)
  | _ => .error (.plain .noSuchMember)

/-- What the methods of a client use: the classes of their parameters and the models
of their responses, in order of first use. -/
structure Uses where
  classes : List TypeClass := []
  models : List String := []
deriving Inhabited

/-- Adds a class unless one of the same name is there. -/
def Uses.addClass (u : Uses) (c : TypeClass) : Uses :=
  if u.classes.any (·.name == c.name) then u else { u with classes := u.classes ++ [c] }

/-- Adds a model unless it is there. -/
def Uses.addModel (u : Uses) (m : String) : Uses :=
  if u.models.contains m then u else { u with models := u.models ++ [m] }

/-- The method of an operation at a path: empty when the operation has no identifier;
otherwise its signature, docstring and body, with the classes and model it uses added. -/
def renderOperation (path : Json) (details : Json) (apiPath : String) (awaited : Bool)
    (renamed : List (String × Json)) (uses : Uses) : Outcome (String × Uses) := do
  let opId ← details.getOr? "operationId" .null
  if !opId.truthy then return ("", uses)
  let params ← Json.iterItems? (← details.getOr? "parameters" (.arr []))
  let classes ← params.mapM parameterClass
  let uses := classes.foldl Uses.addClass uses
  let responses ← details.index? "responses"
  let model ← modelNameOfResponse (← responses.getOr? "200" (.obj [])) false renamed
  let uses := uses.addModel model
  let fullPath ← joinApiPath apiPath path
  let opId ← match opId with
    | .str s => pure s
    | _ => throw (.plain .wrongShape)
  let sig ← methodSignature opId params model awaited
  let doc ← methodDocstring details fullPath model params
  let body ← methodImplementation opId params awaited
  return (sig ++ doc ++ body, uses)

end TransitKit.Codegen
