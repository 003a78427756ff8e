import TransitKit.Codegen.Operation
import TransitKit.Codegen.Description
import TransitKit.Codegen.SourceFile

/-!
# Client modules of API documents

An API document becomes a client module: a configuration file that maps each
operation to its address template and model, and a class file with a client class and
its awaited twin. A set of documents becomes a package: its `__init__.py`, the
`__init__.py` of its endpoints, and the files of each client.

* The client class is named after the document's title without ` API` or ` Api`; the
  API path is the path of its first server address.
* In the address template of an operation, the path parameters are numbered in order.
* The imports of a class file are the typing names it needs (those that are not
  builtin classes), the core classes, its models, and its configuration.
-/

namespace TransitKit.Codegen

open Typing Text

/-- The title of a document. -/
def titleOf (spec : Json) : Outcome Json := do
  (← spec.index? "info").index? "title"

/-- A title without the suffixes ` API` and ` Api`. -/
def cleanTitle : Json → Outcome String
  | .str t => .ok ((t.replace " API" "").replace " Api" "")
  | _ => .error (.plain .noSuchMember)

/-- The first item of a value indexed by position. -/
def firstItem? : Json → Outcome Json
  | .arr (x :: _) => .ok x
  | .arr [] => .error (.plain .outOfRange)
  | .str s => match s.toList with
    | c :: _ => .ok (.str (String.singleton c))
    | [] => .error (.plain .outOfRange)
  | .obj _ => .error (.plain .missingKey)
  | _ => .error (.plain .wrongShape)

/-- The path of an address as a parse of it gives it: without query, fragment and the
parameters of its last segment. -/
def addressPath (url : String) : Outcome String :=
  match Url.split? url with
  | some p => .ok (Url.splitParams p.scheme p.path).1
  | none => .error (.plain .badValue)

/-- What a client module is built from: its class name, its API path and the paths of
its document. -/
structure ApiHeader where
  className : String
  apiPath : String
  paths : Json
deriving Inhabited

/-- The API path of a document: the path of its first server's address, empty when the
address is absent or empty. -/
def apiPathOf (spec : Json) : Outcome String := do
  let servers ← spec.getOr? "servers" (.arr [.obj []])
  let url ← (← firstItem? servers).getOr? "url" (.str "")
  if !url.truthy then return ""
  match url with
  | .str u => addressPath u
  | _ => throw (.plain .noSuchMember)

/-- The header of a document. -/
def ApiHeader.of? (spec : Json) : Outcome ApiHeader := do
  let paths ← spec.getOr? "paths" (.obj [])
  let clean ← cleanTitle (← titleOf spec)
  let className := Naming.className clean ++ "Client"
  return ⟨className, ← apiPathOf spec, paths⟩

/-- The members of a value that is read as a mapping. -/
def membersOf : Json → Outcome (List (String × Json))
  | .obj fs => .ok fs
  | _ => .error (.plain .noSuchMember)

/-- An address template with the placeholder of each path parameter replaced, one
parameter after the other, by the placeholder of its place among them. -/
def numberPlaceholders (uri : String) (names : List String) : String :=
  names.zipIdx.foldl (fun u (p, i) =>
    Text.replaceAll u ("\x7b" ++ p ++ "\x7d") ("\x7b" ++ toString i ++ "\x7d")) uri

/-- The configuration line of an operation, if it has an identifier: the address
template with path parameters numbered, and the model. -/
def configLine (apiPath : String) (path : String) (details : Json)
    (renamed : List (String × Json)) : Outcome (Option String) := do
  let opId ← details.getOr? "operationId" .null
  if !opId.truthy then return none
  let uri ← joinApiPath apiPath (.str path)
  let params ← Json.iterItems? (← details.getOr? "parameters" (.arr []))
  let pathParams ← parametersIn params "path"
  let uri := numberPlaceholders uri (pathParams.map (·.text))
  let responses ← details.index? "responses"
  let model ← modelNameOfResponse (← responses.getOr? "200" (.obj [])) false renamed
  return some ("    '" ++ opId.text ++ "': \x7b'uri': '" ++ uri ++ "', 'model': '" ++ model ++ "'\x7d,\n")

/-- The configuration file of a client: the base address and the endpoint of every
operation with an identifier, in document order. -/
def configFile (spec : Json) (baseUrl : String) (renamed : List (String × Json)) :
    Outcome SourceFile := do
  let clean ← cleanTitle (← titleOf spec)
  let className := Naming.className clean ++ "Client"
  let paths ← spec.getOr? "paths" (.obj [])
  let apiPath ← apiPathOf spec
  let entries ← (← membersOf paths).mapM fun (path, methods) => do
    (← membersOf methods).filterMapM fun (_, details) => configLine apiPath path details renamed
  let text := "base_url = \"" ++ baseUrl ++ "\"\n" ++ "endpoints = \x7b\n" ++
    String.join entries.flatten ++ "\x7d\n"
  return ⟨className ++ "_config.py", text⟩

/-- The import lines of a class file. -/
def importLines (className : String) (classes : List TypeClass) (models : List String)
    (awaited : Bool) : List String :=
  let typingNames := ((classes.filter fun c => match c with
    | .builtin _ => false
    | _ => true).map TypeClass.name).eraseDups.mergeSort (· ≤ ·)
  let typing := if typingNames.isEmpty then [] else
    ["from typing import " ++ ", ".intercalate typingNames ++ "\n"]
  let generic := models.contains genericModelName
  let core := if generic then
      if awaited then "from ..core import ApiError, AsyncClient, Client, GenericResponseModel, ResponseModel\n"
      else "from ..core import ApiError, Client, GenericResponseModel, ResponseModel\n"
    else
      if awaited then "from ..core import ApiError, AsyncClient, Client, ResponseModel\n"
      else "from ..core import ApiError, Client, ResponseModel\n"
  let rest := (models.filter fun m => !(generic && m == genericModelName)).eraseDups.mergeSort (· ≤ ·)
  let modelLines := if rest.isEmpty then [] else
    let line := "from ..models import " ++ ", ".intercalate rest
    if line.length > 88 then ["from ..models import (\n    " ++ ",\n    ".intercalate rest ++ ",\n)\n"]
    else [line ++ "\n"]
  let own := [core] ++ modelLines ++ ["from ." ++ className ++ "_config import base_url, endpoints\n"]
  typing ++ (if typing.isEmpty then [] else ["\n"]) ++ own ++ ["\n\n"]

/-- The docstring line of a client class, from the document's description. -/
def classDocLine (spec : Json) : Outcome String := do
  let info ← spec.getOr? "info" (.obj [])
  let desc ← info.getOr? "description" .null
  if !desc.truthy then return ""
  match desc with
  | .str d =>
    let n := Codegen.normalizeDescription d
    return if n.isEmpty then "" else "    \"\"\"" ++ n ++ "\"\"\"\n\n"
  | _ => throw (.plain .noSuchMember)

/-- The methods of all operations of a document, for one call style. -/
def classMethods (header : ApiHeader) (awaited : Bool) (renamed : List (String × Json))
    (uses : Uses) : Outcome (String × Uses) := do
  (← membersOf header.paths).foldlM (fun (acc : String × Uses) (path, methods) => do
    (← membersOf methods).foldlM (fun (acc : String × Uses) (_, details) => do
      let (text, uses) ← renderOperation (.str path) details header.apiPath awaited renamed acc.2
      return (acc.1 ++ text, uses)) acc) ("", uses)

/-- The class file of a client: its imports, the client class and its awaited twin. -/
def classFile (spec : Json) (renamed : List (String × Json)) : Outcome SourceFile := do
  let header ← ApiHeader.of? spec
  let doc ← classDocLine spec
  let (direct, uses) ← classMethods header false renamed {}
  let doc2 ← classDocLine spec
  let (awaited, uses) ← classMethods header true renamed uses
  let body := "class " ++ header.className ++ "(Client):\n" ++ doc ++ direct ++
    "\nclass Async" ++ header.className ++ "(AsyncClient):\n" ++ doc2 ++ awaited
  let imports := importLines header.className uses.classes uses.models true
  return ⟨header.className ++ ".py", String.join imports ++ body⟩

/-- The package `__init__.py` for the client classes. -/
def packageInit (classNames : List String) : String :=
  let all := classNames ++ classNames.map ("Async" ++ ·)
  "from .endpoints import (\n    " ++ ",\n    ".intercalate all ++ ",\n)\n" ++
  "from . import models\n" ++ "from .core import __version__\n" ++
  "\n__all__ = [\n" ++ ",\n".intercalate (all.map fun n => "    \"" ++ n ++ "\"") ++
  ",\n    \"models\",\n    \"__version__\",\n]\n"

/-- The `__init__.py` of the endpoints for the client classes. -/
def endpointsInit (classNames : List String) : String :=
  let asyncNames := classNames.map ("Async" ++ ·)
  let all := classNames ++ asyncNames
  "from typing import Literal\n\n" ++
  String.join (classNames.map fun c => "from ." ++ c ++ " import Async" ++ c ++ ", " ++ c ++ "\n") ++
  "\n" ++
  "TfLEndpoint = Literal[\n    " ++ ",\n    ".intercalate (classNames.map fun n => "\"" ++ n ++ "\"") ++
  ",\n]\n\n" ++
  "AsyncTfLEndpoint = Literal[\n    " ++ ",\n    ".intercalate (asyncNames.map fun n => "\"" ++ n ++ "\"") ++
  ",\n]\n\n" ++
  "__all__ = [\n" ++ ",\n".intercalate (all.map fun n => "    \"" ++ n ++ "\"") ++ ",\n]\n"

/-- A document whose title is renamed to `User API` when its base name became `User`. -/
def renamedSpec (spec : Json) (title : String) (clean : String) : Json :=
  if clean == "User" && title != "User" then
    match spec.get? "info" with
    | some info => spec.set "info" (info.set "title" (.str "User API"))
    | none => spec
  else spec

/-- The files of a package for a list of documents, in the order they are written:
the package `__init__.py`, the endpoints' `__init__.py`, then the configuration and
class files of each client. The first document titled `Order` or `Test` becomes the
`User` client. -/
def packageFiles (specs : List Json) (baseUrl : String) (renamed : List (String × Json)) :
    Outcome (List SourceFile) := do
  let names ← specs.zipIdx.mapM fun (spec, i) => do
    let title ← titleOf spec
    let title ← match title with
      | .str t => pure t
      | _ => throw (.plain .noSuchMember)
    return (title, Naming.apiBaseName title i)
  let classNames := names.map fun (_, clean) => Naming.className clean ++ "Client"
  let heads := [⟨"__init__.py", packageInit classNames⟩,
    ⟨"endpoints/__init__.py", endpointsInit classNames⟩]
  let clients ← (specs.zip names).mapM fun (spec, (title, clean)) => do
    let spec := renamedSpec spec title clean
    let config ← configFile spec baseUrl renamed
    let cls ← classFile spec renamed
    return [{ config with path := "endpoints/" ++ config.path },
      { cls with path := "endpoints/" ++ cls.path }]
  return heads ++ clients.flatten

end TransitKit.Codegen
