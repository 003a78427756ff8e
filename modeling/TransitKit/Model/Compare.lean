import TransitKit.Model.Registry
import TransitKit.Typing.Display

/-!
# Duplicate models and references between them

Two models are duplicates when both are object or root models with the same field names whose
fields display the same annotation, alias and requiredness, or when both wrap a list, both as
root models or both as list aliases, with equal first arguments. Deduplication keeps the first
of each group and maps every other name to the model it duplicates. Updating references replaces
each mapped name by its model and rebuilds the models that mention one, found by the name a
displayed text refers to inside list aliases, root models and typing unions.
-/

namespace TransitKit.Model

open Typing

/-- Whether a model is an object or a root model. -/
def ModelValue.isSchema : ModelValue → Bool
  | .object _ | .root _ => true
  | _ => false

/-- Two fields agree: the same displayed annotation, alias and requirement. -/
def ModelField.agrees (f g : ModelField) : Bool :=
  f.hint.displayText == g.hint.displayText && f.dataName == g.dataName && f.required == g.required

/-- Whether two models are equal as schemas: both object or root models, with the same
field names, and the fields of each name agreeing. -/
def modelsEqual (a b : ModelValue) : Bool :=
  let fa := a.fields
  let fb := b.fields
  a.isSchema && b.isSchema &&
    (fa.all fun f => fb.any (·.name == f.name)) &&
    (fb.all fun g => fa.any (·.name == g.name)) &&
    fa.all fun f => match fb.find? (·.name == f.name) with
      | some g => f.agrees g
      | none => false

/-- The first argument of the list a root model wraps. -/
def ModelValue.rootItem? : ModelValue → Option TypeHint
  | .root (some (.generic .list (a :: _))) => some a
  | _ => none

/-- The first argument of a list alias. -/
def ModelValue.listItem? : ModelValue → Option TypeHint
  | .container (.generic .list (a :: _)) => some a
  | _ => none

/-- Two optional annotations are both present and equal. -/
def bothSame : Option TypeHint → Option TypeHint → Bool
  | some a, some b => a.same b
  | _, _ => false

/-- Whether a model duplicates a model kept before it. -/
def duplicates (m kept : ModelValue) : Bool :=
  modelsEqual m kept || bothSame m.rootItem? kept.rootItem? || bothSame m.listItem? kept.listItem?

/-- One model met while folding: it is folded into the first kept model it duplicates,
or kept. -/
def Registry.keepOrFold (acc : Registry × List (String × String)) (p : String × ModelValue) :
    Registry × List (String × String) :=
  match acc.1.entries.find? (fun (_, k) => duplicates p.2 k) with
  | some (k, _) => (acc.1, acc.2 ++ [(p.1, k)])
  | none => (⟨acc.1.entries ++ [p]⟩, acc.2)

/-- The models kept, in order, and the map from every other name to the first kept model
it duplicates. -/
def Registry.dedupe (r : Registry) : Registry × List (String × String) :=
  r.entries.foldl Registry.keepOrFold (⟨[]⟩, [])

/-- The model a displayed annotation refers to through the map, if any. The model must
exist. -/
def Registry.target? (r : Registry) (refs : List (String × String)) (h : TypeHint) :
    Outcome (Option String) :=
  match refs.lookup h.referenceName with
  | some t => if r.names.contains t then .ok (some t) else .error (.plain .missingKey)
  | none => .ok none

/-- The model an annotation refers to through the map, or the annotation itself. -/
def Registry.lookupHint (r : Registry) (refs : List (String × String)) (h : TypeHint) :
    Outcome TypeHint := do
  match ← r.target? refs h with
  | some t => return r.hintOf t
  | none => return h

/-- An annotation with references updated: lists and typing unions are rebuilt from
their updated arguments; anything else that refers to a mapped name becomes the model it
maps to. -/
def Registry.resolve (r : Registry) (refs : List (String × String)) : TypeHint → Outcome TypeHint
  | .generic .list args =>
    if args.isEmpty then r.lookupHint refs (.generic .list args)
    else do return .generic .list (← args.mapM (r.resolve refs))
  | .union args => do
    match ← args.mapM (r.resolve refs) with
    | x :: xs => return TypeHint.unionOf x xs
    | [] => return .union []
  | h => r.lookupHint refs h

/-- What a model becomes when references are updated. -/
inductive Updated where
  /-- The model given under this name. -/
  | sameAs (name : String)
  /-- A root model made anew because its annotation changed. -/
  | recreatedRoot (hint : TypeHint)
  /-- A list alias rebuilt from its updated arguments. -/
  | rebuilt (hint : TypeHint)
deriving Inhabited

/-- What each model becomes when references are updated: a mapped name becomes the model
it maps to; a root model is made anew when its annotation changes; a list alias is
rebuilt; any other model becomes the model its displayed text refers to, or stays. -/
def Registry.updateReferences (r : Registry) (refs : List (String × String)) :
    Outcome (List (String × Updated)) :=
  r.entries.mapM fun (n, v) => do
    match refs.lookup n with
    | some t => if r.names.contains t then return (n, .sameAs t) else throw (.plain .missingKey)
    | none =>
      match v with
      | .root (some h) =>
        let u ← r.resolve refs h
        return (n, if u.same h then .sameAs n else .recreatedRoot u)
      | .root none => return (n, .sameAs n)
      | .container (.generic .list (a :: as)) =>
        return (n, .rebuilt (.generic .list (← (a :: as).mapM (r.resolve refs))))
      | _ =>
        match ← r.target? refs (r.hintOf n) with
        | some t => return (n, .sameAs t)
        | none => return (n, .sameAs n)

theorem dedupe_nil : Registry.dedupe ⟨[]⟩ = (⟨[]⟩, []) := rfl

end TransitKit.Model
