import TransitKit.Model.Builder
import TransitKit.Model.Compare

/-!
# From component schemas to the models that are written

The models of a package come from its component schemas in five steps:

1. the schemas are built into models (`buildModels`);
2. duplicate models are folded into the first of their kind (`Registry.dedupe`);
3. references to folded models are updated (`Registry.updateReferences`);
4. models that became duplicates through the update are folded too;
5. the dependencies of what remains are resolved (`Registry.resolveDependencies`).

Every fold is recorded, so that code referring to a folded model can refer to the model
that stands for it.
-/

namespace TransitKit.Model

open Typing

/-- The annotation `dict[str, Any]` of an object schema without properties. -/
def anyDictHint : TypeHint := .generic .dict [.cls (.builtin "str"), .cls .anything]

/-- A built model as an item type of an array: a dictionary alias stands for its
annotation, any other model for its class. -/
def itemHint (models : List (String × BuiltModel)) (name : String) : TypeHint :=
  match (models.find? (·.1 == name)).map (·.2) with
  | some BuiltModel.anyDict => anyDictHint
  | _ => .cls (.model name)

/-- A built model as a model of a registry. -/
def BuiltModel.value (models : List (String × BuiltModel)) : BuiltModel → ModelValue
  | .object fs => .object (fs.map fun f => ⟨f.name, f.hint, some f.dataName, f.required⟩)
  | .anyDict => .container anyDictHint
  | .array item =>
    .root (some (.generic .list [match item with
      | some n => itemHint models n
      | none => .cls .anything]))

/-- The registry of built models, in the order they were built. -/
def Registry.ofBuild (b : Build) : Registry :=
  ⟨b.models.map fun (n, m) => (n, m.value b.models)⟩

/-- The models after their references are updated: a model becomes the model it is the
same as, or the model rebuilt around its new annotation. -/
def Registry.applyUpdates (r : Registry) (us : List (String × Updated)) : Registry :=
  ⟨us.map fun (n, u) => (n, match u with
    | .sameAs t => (r.get? t).getD (.root none)
    | .recreatedRoot h => .root (some h)
    | .rebuilt h => .container h)⟩

/-- What the five steps give: the build with its descriptions, the models written, the
folds from a folded model to the model that stands for it, and the resolution of their
dependencies. -/
structure Generated where
  build : Build
  registry : Registry
  folds : List (String × String)
  resolution : Resolution

/-- Texts of descriptions; a description that is not a text is written as its
literal. -/
def descriptionTexts (ds : List (String × Json)) : List (String × String) :=
  ds.map fun (k, v) => (k, v.text)

/-- The model descriptions of a generation, as texts. -/
def Generated.modelDescriptions (g : Generated) : List (String × String) :=
  descriptionTexts g.build.modelDescriptions

/-- The field descriptions of a generation, as texts. -/
def Generated.fieldDescriptions (g : Generated) : List (String × List (String × String)) :=
  g.build.fieldDescriptions.map fun (k, ds) => (k, descriptionTexts ds)

/-- Builds the models of component schemas, folds duplicates before and after updating
references, and resolves the dependencies. -/
def generateModels (components : Json) : Outcome Generated := do
  let b := buildModels components
  if let some f := b.failure then throw f
  let (r1, folds1) := (Registry.ofBuild b).dedupe
  let r2 := r1.applyUpdates (← r1.updateReferences folds1)
  let (r3, folds2) := r2.dedupe
  return ⟨b, r3, folds1 ++ folds2, ← r3.resolveDependencies⟩

theorem applyUpdates_names (r : Registry) (us : List (String × Updated)) :
    (r.applyUpdates us).names = us.map (·.1) := by
  simp [Registry.applyUpdates, Registry.names]

end TransitKit.Model
