import TransitKit.Typing.FieldType
import TransitKit.Naming.Names

/-!
# Models built from component schemas

Component schemas become models in two passes over the components, each under the class name of
its component. The first records descriptions and makes an `object` schema an object model, or
the alias `dict[str, Any]` when it has no `properties`; each property is a field under its code
name, aliased by its name, with `| None` when it is not required. The second makes an `array`
schema a root model over a list, whose item model must have been built in the first pass. A
later model of a class name replaces an earlier one in its place; building stops at the first
failure and keeps what was built before it.
-/

namespace TransitKit.Model

open Typing

/-- A field of a built object model. -/
structure BuiltField where
  /-- The name in code. -/
  name : String
  /-- The name of the property in the data. -/
  dataName : String
  required : Bool
  /-- The annotation: the schema's, with `| None` for an optional property. -/
  hint : TypeHint

/-- A built model. -/
inductive BuiltModel where
  | object (fields : List BuiltField)
  /-- The dictionary alias `dict[str, Any]`, for an object schema without properties. -/
  | anyDict
  /-- A root model over a list of the model named, or of anything. -/
  | array (item : Option String)

/-- What building models gives: the models in order, the model descriptions and the
property descriptions by class name, and the failure that stopped it, if any. -/
structure Build where
  models : List (String × BuiltModel) := []
  modelDescriptions : List (String × Json) := []
  fieldDescriptions : List (String × List (String × Json)) := []
  failure : Option Fault := none

/-- Puts a value under a key: in place when the key is present, else at the end. -/
def putEntry {α : Type} (xs : List (String × α)) (k : String) (v : α) : List (String × α) :=
  if xs.any (·.1 == k) then xs.map fun p => if p.1 == k then (k, v) else p else xs ++ [(k, v)]

/-- Records the description of a schema, when it has one. -/
def Build.describe (b : Build) (className : String) (spec : Json) : Outcome Build := do
  if ← spec.holds? "description" then
    return { b with modelDescriptions := putEntry b.modelDescriptions className (← spec.index? "description") }
  else return b

/-- The members of a value read as a mapping. -/
def mappingItems : Json → Outcome (List (String × Json))
  | .obj fs => .ok fs
  | _ => .error (.plain .noSuchMember)

/-- The field of a property and its description, if it has one. `origin` is where an
enumeration class made for it is made. -/
def propertyField (origin : List Nat) (required : Json) (name : String) (spec : Json) :
    Outcome (BuiltField × Option Json) := do
  let hint ← fieldType origin spec name
  let code := Naming.fieldName name
  let desc ← if ← spec.holds? "description" then some <$> spec.index? "description"
    else pure none
  if ← required.holds? name then return (⟨code, name, true, hint⟩, desc)
  else return (⟨code, name, false, hint.or .none⟩, desc)

/-- The object model of a component, if its schema is an object. -/
def Build.objectModel (b : Build) (i : Nat) (className : String) (spec : Json) : Outcome Build := do
  if (← spec.getOr? "type" .null).str? != some "object" then return b
  if !(← spec.holds? "properties") then
    return { b with models := putEntry b.models className .anyDict }
  let required ← spec.getOr? "required" (.arr [])
  let props ← mappingItems (← spec.index? "properties")
  let (fields, descs) ← props.zipIdx.foldlM
    (fun (acc : List BuiltField × List (String × Json)) ((n, s), k) => do
      let (f, d) ← propertyField [i, k] required n s
      let fields := if acc.1.any (·.name == f.name) then acc.1.map fun g => if g.name == f.name then f else g
        else acc.1 ++ [f]
      let descs := match d with
        | some d => putEntry acc.2 f.name d
        | none => acc.2
      return (fields, descs)) ([], [])
  let b := if descs.isEmpty then b
    else { b with fieldDescriptions := putEntry b.fieldDescriptions className descs }
  return { b with models := putEntry b.models className (.object fields) }

/-- Records a failure, or takes the new state. -/
def Build.settle (b : Build) : Outcome Build → Build
  | .ok b => b
  | .error f => { b with failure := some f }

/-- The first pass over one component: its description, and its object model. A failure
after the description keeps the description. -/
def Build.objectPass (b : Build) (i : Nat) (name : String) (spec : Json) : Build :=
  let className := Naming.className name
  match b.describe className spec with
  | .error f => { b with failure := some f }
  | .ok b => b.settle (b.objectModel i className spec)

/-- The second pass over one component: its array model. Items that refer to a model
need that model built. -/
def Build.arrayPass (b : Build) (name : String) (spec : Json) : Outcome Build := do
  let className := Naming.className name
  if (← spec.getOr? "type" .null).str? != some "array" then return b
  let items ← spec.getOr? "items" .null
  if ← items.holds? "$ref" then
    let ref ← match ← items.index? "$ref" with
      | .str r => pure r
      | _ => throw (.plain .noSuchMember)
    let target := referencedName ref
    if !(b.models.any (·.1 == target)) then
      throw (.withText .missingKey ("Referenced model '" ++ target ++
        "' not found while creating array '" ++ className ++ "'"))
    return { b with models := putEntry b.models className (.array (some target)) }
  return { b with models := putEntry b.models className (.array none) }

/-- Runs a pass over the components, stopping at the first failure. -/
def Build.pass (b : Build) (components : List (String × Json))
    (step : Build → Nat → String → Json → Build) : Build :=
  components.zipIdx.foldl (fun b ((n, s), i) =>
    match b.failure with
    | some _ => b
    | none => step b i n s) b

/-- Builds the models of a set of component schemas: object models and dictionary
aliases first, then array models. -/
def buildModels (components : Json) : Build :=
  match components with
  | .obj cs =>
    let b := Build.pass {} cs Build.objectPass
    Build.pass b cs fun b _ n s => b.settle (b.arrayPass n s)
  | _ => { failure := some (.plain .noSuchMember) }

theorem buildModels_empty : buildModels (.obj []) = {} := rfl

end TransitKit.Model
