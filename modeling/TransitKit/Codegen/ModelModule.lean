import TransitKit.Model.Registry
import TransitKit.Codegen.SourceFile
import TransitKit.Codegen.Description
import TransitKit.Json.Literal
import TransitKit.Naming.Names

/-!
# Model modules

The models of a registry become a package `models`: a file per model, a file per enumeration
class a field uses, and an `__init__.py` importing them all. An enumeration is a class of one
line per member. A list or dictionary alias is a root model over `list[X]` or `dict[K, V]`, each
argument written by the name it answers to (`Any` when it has none) and imported from the models
or, when not a builtin class, from the typing library. An object or root model imports, group by
group and sorted, the typing names, models and enumerations its fields need, and declares
optional fields with `| None` and the default `None`. A circular model is rebuilt once its
module has been read.
-/

namespace TransitKit.Codegen

open Typing Model

/-- The import of a model by its module: `from .X import X`. -/
def moduleImport (n : String) : String := "from ." ++ n ++ " import " ++ n

/-- The configuration line that closes every model class. -/
def modelConfigLine : String := "\n    model_config = ConfigDict(from_attributes=True)\n"

/-- The file of an enumeration class: one line per member, its value in quotes as text. -/
def enumText (className : String) (e : EnumClass) : String :=
  "from enum import Enum\n\n\n" ++ "class " ++ className ++ "(Enum):\n" ++
    String.join (e.members.map fun (n, v) => "    " ++ n ++ " = '" ++ v.text ++ "'\n")

/-- What an argument of an alias needs: the name it is written by, and the typing and
model imports it adds. -/
structure ArgumentUse where
  written : String
  typing : List String := []
  modules : List String := []

/-- The use of an argument of an alias. An argument without a name is written `Any`;
the names `Optional`, `list` and `Union` import nothing; a name whose class name is a
model imports that model; any other name that is not a builtin class is imported from
the typing library. -/
def argumentUse (r : Registry) (a : TypeHint) : ArgumentUse :=
  match hintName? a with
  | none => ⟨"Any", [], []⟩
  | some n =>
    if ["Optional", "list", "Union"].contains n then ⟨n, [], []⟩
    else
      let c := Naming.className n
      if r.names.contains c then ⟨n, [], [moduleImport c]⟩
      else match a with
        | .cls (.builtin _) => ⟨n, [], []⟩
        | _ => ⟨n, [n], []⟩

/-- Lines sorted without repetition. -/
def sortedLines (xs : List String) : List String := (xs.mergeSort (· ≤ ·)).eraseDups

/-- The relative imports of the file of an alias: the models its arguments name, sorted. -/
def aliasImports (r : Registry) (args : List TypeHint) : List String :=
  sortedLines (args.flatMap fun a => (argumentUse r a).modules)

/-- The file of a list or dictionary alias: a root model over the container. A list
takes exactly one argument and a dictionary two. -/
def aliasText (r : Registry) (className : String) (o : Container) (args : List TypeHint) :
    Outcome String := do
  let uses ← match o, args with
    | .list, [a] => pure [argumentUse r a]
    | .dict, [k, v] => pure [argumentUse r k, argumentUse r v]
    | .list, _ => throw (.withText .badValue
        s!"list type should have exactly 1 argument, got {args.length}")
    | .dict, _ => throw (.withText .badValue
        s!"dict type should have exactly 2 arguments (key, value), got {args.length}")
  let written := ", ".intercalate (uses.map (·.written))
  let typing := sortedLines (uses.flatMap (·.typing))
  let modules := aliasImports r args
  let typingLines := if typing.isEmpty then [] else ["from typing import " ++ ", ".intercalate typing, ""]
  let moduleLines := if modules.isEmpty then [] else "" :: modules
  let lines := typingLines ++ ["from pydantic import ConfigDict, RootModel"] ++ moduleLines
  return "\n".intercalate lines ++ "\n" ++ "\n\nclass " ++ className ++ "(RootModel[" ++ o.name ++ "[" ++
    written ++ "]]):\n" ++ modelConfigLine

/-- The docstring of a model, from its description when it has words. -/
def modelDocstring (descriptions : List (String × String)) (className : String) : String :=
  match descriptions.lookup className with
  | some d =>
    let n := normalizeDescription d
    if n.isEmpty then "" else "    \"\"\"" ++ n ++ "\"\"\"\n\n"
  | none => ""

/-- The declaration of a field: its code name, the text of its annotation (with `| None`
added to an optional one), its default, its alias when it differs from its name, and its
description. -/
def fieldLine (circular : List String) (descriptions : List (String × String)) (f : ModelField) :
    String :=
  let name := Naming.fieldName f.name
  let shown := f.hint.resolvedText circular
  let shown := if !f.required && !shown.endsWith " | None" && shown != "None" then shown ++ " | None"
    else shown
  let default := if f.required then "..." else "None"
  let aliasPart := match f.dataName with
    | some a => if !a.isEmpty && a != f.name then ", alias='" ++ a ++ "'" else ""
    | none => ""
  let desc := match descriptions.lookup name with
    | some d =>
      let e := escapeDescription d
      if e.isEmpty then "" else ", description=\"" ++ e ++ "\""
    | none => ""
  "    " ++ name ++ ": " ++ shown ++ " = Field(" ++ default ++ aliasPart ++ desc ++ ")\n"

/-- The typing names the fields of a model need, sorted. -/
def fieldTypingNames (circular : List String) (fields : List ModelField) : Outcome (List String) := do
  let names ← fields.mapM fun f => f.hint.typingImports circular
  return sortedLines names.flatten

/-- The relative imports of the file of an object or root model: every model the graph
says it depends on, other than itself and the names `Optional`, `list` and `Union`, and
every enumeration class its fields use, sorted. -/
def classImports (graph : DependencyGraph) (className : String) (fields : List ModelField) :
    List String :=
  let deps := (graph.depsOf className).filter fun d =>
    d != className && !(["Optional", "list", "Union"].contains d)
  let enums := fields.flatMap fun f => f.hint.enums.map (·.name)
  sortedLines ((deps ++ enums).map moduleImport)

/-- The file of an object or root model. -/
def classText (graph : DependencyGraph) (circular : List String)
    (modelDescriptions : List (String × String))
    (fieldDescriptions : List (String × List (String × String)))
    (className : String) (v : ModelValue) : Outcome String := do
  let isRoot := v matches .root _
  let fields := v.fields
  let typing ← fieldTypingNames circular fields
  let typingLines := if typing.isEmpty then [] else ["from typing import " ++ ", ".intercalate typing]
  let pydantic := if isRoot then "from pydantic import ConfigDict, RootModel"
    else "from pydantic import BaseModel, ConfigDict, Field"
  let relative := classImports graph className fields
  let groups := [typingLines, [pydantic], relative].filter (!·.isEmpty)
  let header := "\n\n".intercalate (groups.map ("\n".intercalate ·)) ++ "\n\n\n"
  let body ← match v with
    | .root (some h) => h.typeText.map fun t =>
      "class " ++ className ++ "(RootModel[" ++ t ++ "]):\n" ++ modelDocstring modelDescriptions className
    | .root none => pure ("class " ++ className ++ "(RootModel[list]):\n" ++
        modelDocstring modelDescriptions className)
    | _ =>
      let descs := (fieldDescriptions.lookup className).getD []
      pure ("class " ++ className ++ "(BaseModel):\n" ++ modelDocstring modelDescriptions className ++
        String.join (fields.map (fieldLine circular descs)))
  let rebuild := if circular.contains className then "\n" ++ className ++ ".model_rebuild()\n" else ""
  return header ++ body ++ modelConfigLine ++ rebuild

/-- The lines that import the models, in the given order of generation or else by
name; names that are not models are left out. -/
def importStatements (names : List String) (order : List String) : String :=
  let sorted := names.mergeSort (· ≤ ·)
  let order := if order.isEmpty then sorted else order
  String.join ((order.filter names.contains).map fun n => moduleImport n ++ "\n")

/-- The `__init__.py` of the models package. -/
def initText (names : List String) (order : List String) : String :=
  let sorted := names.mergeSort (· ≤ ·)
  let quoted := ",\n    ".intercalate (sorted.map fun n => "\"" ++ n ++ "\"")
  "from typing import Literal\n\n" ++ importStatements names order ++
    "\nfrom ..core.package_models import GenericResponseModel\n" ++
    "\nResponseModelName = Literal[\n    " ++ quoted ++ ",\n    \"GenericResponseModel\"\n]\n\n" ++
    "__all__ = [\n    " ++ quoted ++ ",\n    'GenericResponseModel'\n]\n"

/-- The file of one model. -/
def modelFile (r : Registry) (graph : DependencyGraph) (circular : List String)
    (modelDescriptions : List (String × String))
    (fieldDescriptions : List (String × List (String × String)))
    (name : String) (v : ModelValue) : Outcome SourceFile := do
  let className := Naming.className name
  let text ← match v with
    | .enumeration e => pure (enumText className e)
    | .container (.generic o args) => aliasText r className o args
    | .container _ => throw (.plain .wrongShape)
    | _ => classText graph circular modelDescriptions fieldDescriptions className v
  return ⟨"models/" ++ className ++ ".py", text⟩

/-- The relative imports of the file of a model: none for an enumeration, the models the
arguments of an alias name, and the dependencies and enumeration classes of an object or
root model. -/
def fileImports (r : Registry) (graph : DependencyGraph) (name : String) : ModelValue → List String
  | .enumeration _ => []
  | .container (.generic _ args) => aliasImports r args
  | .container _ => []
  | .object fs => classImports graph (Naming.className name) fs
  | .root h => classImports graph (Naming.className name) (ModelValue.root h).fields

/-- The files of the enumeration classes that the fields of object and root models use. -/
def enumFiles (r : Registry) : List SourceFile :=
  r.entries.flatMap fun (_, v) =>
    v.fields.flatMap fun f => f.hint.enums.map fun e => ⟨"models/" ++ e.name ++ ".py", enumText e.name e⟩

/-- Every file of the models package, in the order they are written: the `__init__.py`,
the file of each model, then the files of the enumeration classes fields use. -/
def modelFiles (r : Registry) (graph : DependencyGraph) (circular : List String)
    (order : List String) (modelDescriptions : List (String × String))
    (fieldDescriptions : List (String × List (String × String))) : Outcome (List SourceFile) := do
  let models ← r.entries.mapM fun (n, v) =>
    modelFile r graph circular modelDescriptions fieldDescriptions n v
  return ⟨"models/__init__.py", initText r.names order⟩ :: models ++ enumFiles r

theorem importStatements_nil (order : List String) : importStatements [] order = "" := by
  have h : ∀ l : List String, List.filter ([] : List String).contains l = [] := by
    intro l
    induction l with
    | nil => rfl
    | cons x xs ih => simp [List.filter, ih]
  simp only [importStatements, h]
  rfl

end TransitKit.Codegen
