import TransitKit.Model.Compare
import TransitKit.Model.Builder
import TransitKit.Typing.Form

/-!
# JSON forms of models

A registry is written as a list of model descriptions, each with a name and a kind: objects
with their fields, root models, aliases of lists, dictionaries and generics, and enumerations.
Classes are made before their fields, so that annotations may name models defined later. A
dependency graph is written as an object from names to lists of names.
-/

namespace TransitKit.Model

open Typing

/-- A text member of a description. -/
def textMember (j : Json) (k : String) : Reading String :=
  match j.get? k with
  | some (.str s) => pure s
  | _ => malformed s!"a model needs a text {k}"

/-- The alias of a model's value, read with the models defined so far. -/
def aliasOf (r : Registry) (i : Nat) (d : Json) : Reading (Option TypeHint) := do
  let read (k : Nat) (j : Json) := TypeHint.ofJsonWith r.classNamed (j.depth + 1) [i, k] j
  match ← textMember d "kind" with
  | "list" => return some (.generic .list [← read 0 (d.getD "items" .null)])
  | "dict" =>
    return some (.generic .dict [← read 0 (d.getD "key" .null), ← read 1 (d.getD "value" .null)])
  | "generic" =>
    let origin ← match ← textMember d "origin" with
      | "list" => pure Container.list
      | "dict" => pure Container.dict
      | _ => malformed "a generic model needs the origin list or dict"
    let args ← listForm (d.getD "args" (.arr []))
    return some (.generic origin (← args.zipIdx.mapM fun (a, k) => read k a))
  | _ => return none

/-- The value of a class model, with its annotations read with all models defined. -/
def classOf (r : Registry) (i : Nat) (d : Json) (first : ModelValue) : Reading ModelValue := do
  let read (k : Nat) (j : Json) := TypeHint.ofJsonWith r.classNamed (j.depth + 1) [i, k] j
  match first with
  | .object _ =>
    let fields ← listForm (d.getD "fields" (.arr []))
    let fields ← fields.zipIdx.mapM fun (f, k) => do
      let name ← textMember f "name"
      let hint ← read k (f.getD "type" .null)
      let dataName ← match f.get? "alias" with
        | some (.str a) => pure (some a)
        | some .null => pure none
        | none => pure (some name)
        | _ => malformed "a field alias must be a text or null"
      let required := (f.get? "required").any fun v => v.bool? == some true
      pure (⟨name, hint, dataName, required⟩ : ModelField)
    return .object (fields.foldl ModelField.put [])
  | .root _ =>
    match d.get? "root" with
    | some t => return .root (some (← read 0 t))
    | none => return .root none
  | v => return v

/-- The class made first for a description, if it describes a class. -/
def firstClass (i : Nat) (d : Json) : Reading (Option ModelValue) := do
  match ← textMember d "kind" with
  | "object" => return some (.object [])
  | "root" => return some (.root none)
  | "enum" =>
    let values ← listForm (d.getD "values" (.arr []))
    return some (.enumeration (← generated (EnumClass.make? (← textMember d "name") [i] values)))
  | "list" | "dict" | "generic" => return none
  | k => malformed s!"unknown model kind {k}"

/-- Puts a model under its name: in place when the name is present, else at the end. -/
def Registry.put (r : Registry) (n : String) (v : ModelValue) : Registry :=
  if r.entries.any (·.1 == n) then ⟨r.entries.map fun p => if p.1 == n then (n, v) else p⟩
  else ⟨r.entries ++ [(n, v)]⟩

/-- Reads a registry from its descriptions. -/
def Registry.ofJson (j : Json) : Reading Registry := do
  let descs ← listForm j
  let indexed := descs.zipIdx
  -- classes first
  let classes ← indexed.foldlM (fun (r : Registry) (d, i) => do
    match ← firstClass i d with
    | some v => pure (r.put (← textMember d "name") v)
    | none => pure r) ⟨[]⟩
  -- then aliases
  let withAliases ← indexed.foldlM (fun (r : Registry) (d, i) => do
    match ← aliasOf r i d with
    | some h => pure (r.put (← textMember d "name") (.container h))
    | none => pure r) classes
  -- then the annotations of classes, in the order of the descriptions
  indexed.foldlM (fun (acc : Registry) (d, i) => do
    let name ← textMember d "name"
    match withAliases.get? name with
    | some v => pure (acc.put name (← classOf withAliases i d v))
    | none => pure acc) ⟨[]⟩

/-- Reads a dependency graph from an object of names to lists of names; repeated names
in a list count once. -/
def DependencyGraph.ofJson (j : Json) : Reading DependencyGraph := do
  match j with
  | .obj fs =>
    let edges ← fs.mapM fun (k, v) => do
      let ds ← listForm v
      let ds ← ds.mapM fun d => match d with
        | .str s => pure s
        | _ => malformed "dependencies must be names"
      pure (k, ds.eraseDups)
    return ⟨edges⟩
  | _ => malformed "a graph must be an object"

/-- A dependency graph as JSON: pairs of a name and its sorted dependencies. -/
def DependencyGraph.toJson (g : DependencyGraph) : Json :=
  .arr (g.edges.map fun (n, ds) => .arr [.str n, textsJson (ds.mergeSort (· ≤ ·))])

/-- A map of names to names as a JSON object. -/
def namesJson (m : List (String × String)) : Json := .obj (m.map fun (k, v) => (k, .str v))

/-- What a model became when references were updated, as JSON: `same_as` with the name
of the model it is, `recreated_root`, or the declared text of a rebuilt alias. -/
def Updated.toJson : Updated → Outcome Json
  | .sameAs n => .ok (.obj [("same_as", .str n)])
  | .recreatedRoot _ => .ok (.obj [("recreated_root", .bool true)])
  | .rebuilt h => do return .obj [("type", .str (← h.typeText))]

/-- A built field as JSON: its code name, alias, requirement, quoted annotation text and
the enumeration classes it uses. -/
def BuiltField.toJson (f : BuiltField) : Json :=
  .obj [("name", .str f.name), ("alias", .str f.dataName), ("required", .bool f.required),
    ("type", .str (f.hint.resolvedText [])), ("enums", .arr (f.hint.enums.map enumJson))]

/-- A built model as JSON. A field named `model_fields` is not listed. -/
def BuiltModel.toJson : BuiltModel → Json
  | .object fs => .obj [("kind", .str "object"),
      ("fields", .arr ((fs.filter (·.name != "model_fields")).map BuiltField.toJson))]
  | .anyDict => .obj [("kind", .str "generic"), ("type", .str "dict[str, Any]")]
  | .array _ => .obj [("kind", .str "root")]

/-- What building models gave, as JSON, with the failure written by `faultJson`. -/
def Build.toJson (faultJson : Fault → Json) (b : Build) : Json :=
  let base := [("models", Json.arr (b.models.map fun (n, m) => .arr [.str n, m.toJson])),
    ("model_descriptions", .obj b.modelDescriptions),
    ("field_descriptions", .obj (b.fieldDescriptions.map fun (n, ds) => (n, .obj ds)))]
  match b.failure with
  | some f => .obj (base ++ [("error", faultJson f)])
  | none => .obj base

end TransitKit.Model
