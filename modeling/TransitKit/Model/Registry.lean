import TransitKit.Typing.Views
import TransitKit.Model.Graph

/-!
# Registries of models

The models of a generated package, by name and in order of definition. A model is one
of:

* an object model: a class with fields, each with an annotation, an alias and whether
  it is required;
* a root model: a class that wraps one annotated value, or nothing;
* an alias: a container annotation such as `list[Line]` that stands under a name;
* an enumeration class.
-/

namespace TransitKit.Model

open Typing

/-- A field of an object model. -/
structure ModelField where
  name : String
  hint : TypeHint
  /-- The name the field has in the data; absent when it is `null`. -/
  dataName : Option String
  required : Bool
deriving Inhabited

/-- Adds a field to fields by name: a field of a name already present replaces the
earlier one in its place. -/
def ModelField.put (fs : List ModelField) (f : ModelField) : List ModelField :=
  if fs.any (·.name == f.name) then fs.map fun g => if g.name == f.name then f else g
  else fs ++ [f]

/-- A model of a registry. -/
inductive ModelValue where
  | object (fields : List ModelField)
  | root (hint : Option TypeHint)
  | container (hint : TypeHint)
  | enumeration (e : EnumClass)
deriving Inhabited

/-- Models by name in order of definition. -/
structure Registry where
  entries : List (String × ModelValue)
deriving Inhabited

/-- The fields a class model declares: the fields of an object model, and the one field
`root` of a root model that wraps a value, required and without alias. -/
def ModelValue.fields : ModelValue → List ModelField
  | .object fs => fs
  | .root (some h) => [⟨"root", h, none, true⟩]
  | _ => []

namespace Registry

/-- The names of the models. -/
def names (r : Registry) : List String := r.entries.map (·.1)

/-- The model of a name. -/
def get? (r : Registry) (n : String) : Option ModelValue :=
  (r.entries.find? (·.1 == n)).map (·.2)

/-- The annotation a model name stands for: the class of an object, root or enumeration
model, the container of an alias, and a class of that name for a name not defined. -/
def hintOf (r : Registry) (n : String) : TypeHint :=
  match r.get? n with
  | some (.container h) => h
  | some (.enumeration e) => .cls (.enumeration e)
  | _ => .cls (.model n)

/-- The class a model name names in an annotation: the enumeration class of an
enumeration model, and otherwise the model class of that name. An alias is not a class,
so its name, like a name not defined, names a class of its own. -/
def classNamed (r : Registry) (n : String) : TypeHint :=
  match r.get? n with
  | some (.enumeration e) => .cls (.enumeration e)
  | _ => .cls (.model n)

end Registry

/-- The name an annotation answers to, if any: the name of a class or container, and
`Optional` or `Union` for a typing union; forward references and `|` unions have none. -/
def hintName? : TypeHint → Option String
  | .cls c => some c.name
  | .generic o _ => some o.name
  | .union [a, b] => if a.isNone || b.isNone then some "Optional" else some "Union"
  | .union _ => some "Union"
  | .bar _ | .ref _ => none

/-- The model a forward reference depends on: the first part between `|` signs that is
neither blank nor `None`, or the whole text when there is none. -/
def forwardTarget (text : String) : String :=
  match ((Text.splitAt '|' text).map Text.stripBlanks).find? fun p => !p.isEmpty && p != "None" with
  | some p => p
  | none => text

/-- The models an annotation depends on, given the names of all models: the targets of
its forward references, and the class names of the parts that are named like a model. -/
def hintDeps (names : List String) (h : TypeHint) : List String :=
  h.parts.filterMap fun p => match p with
    | .forward t => some (forwardTarget t)
    | .named n => if names.contains n then some (Naming.className n) else none

/-- The models a model depends on. Object and root models depend on what their
annotations depend on; an alias on the model its first argument is named like;
enumeration classes on nothing. -/
def ModelValue.deps (names : List String) : ModelValue → List String
  | .object fs => fs.flatMap fun f => hintDeps names f.hint
  | .root (some h) => hintDeps names h
  | .root none => []
  | .container (.generic _ (a :: _)) =>
    match hintName? a with
    | some n => if names.contains n then [Naming.className n] else []
    | none => []
  | .container _ => []
  | .enumeration _ => []

/-- The dependency graph of a registry: the models that depend on something, in order,
then the others in order; each with its dependencies without repetition. -/
def Registry.dependencies (r : Registry) : DependencyGraph :=
  let names := r.names
  let withDeps := r.entries.filterMap fun (n, v) =>
    match (v.deps names).eraseDups with
    | [] => none
    | ds => some (n, ds)
  let without := r.entries.filterMap fun (n, v) =>
    if (v.deps names).isEmpty then some (n, []) else none
  ⟨withDeps ++ without⟩

/-- A model with every class of a circular model in its annotations replaced by a
forward reference. Only object and root models have annotations to replace. -/
def ModelValue.breakCircular (circular : List String) : ModelValue → Outcome ModelValue
  | .object fs => do
    return .object (← fs.mapM fun f => do return { f with hint := ← f.hint.replaceCircular circular })
  | .root (some h) => do return .root (some (← h.replaceCircular circular))
  | .root none => .ok (.root none)
  | _ => .error (.plain .noSuchMember)

/-- The registry with the annotations of each circular model rewritten so that they
refer to circular models by forward references. Every circular model must be in the
registry. -/
def Registry.breakCircular (r : Registry) (circular : List String) : Outcome Registry :=
  circular.foldlM (fun (acc : Registry) n => do
    match acc.get? n with
    | some v =>
      let v ← v.breakCircular circular
      return ⟨acc.entries.map fun p => if p.1 == n then (n, v) else p⟩
    | none => throw (.plain .missingKey)) r

/-- What resolving the dependencies of a registry gives: the dependency graph, the
circular models, the order of generation, and the registry with circular references
broken. -/
structure Resolution where
  graph : DependencyGraph
  circular : List String
  order : List String
  registry : Registry

/-- Resolves the dependencies of a registry. -/
def Registry.resolveDependencies (r : Registry) : Outcome Resolution := do
  let g := r.dependencies
  let circular := g.circular
  return ⟨g, circular, g.order, ← r.breakCircular circular⟩

end TransitKit.Model
