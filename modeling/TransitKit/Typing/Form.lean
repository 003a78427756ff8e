import TransitKit.Typing.Views
import TransitKit.Typing.FieldType

/-!
# JSON forms of annotations

Annotations are written in JSON as follows: the texts `str`, `int`, `float`, `bool`,
`dict`, `list`, `Any` and `None` stand for those classes; `{"ref": X}` is a forward
reference; `{"model": X}` the model named `X`; `{"list": T}` and `{"dict": [K, V]}`
containers; `{"optional": T}` is `T | None`; `{"union": [T, …]}` joins its items with
`|` from the left; `{"Union": [T, …]}` and `{"Optional": T}` are typing unions;
`{"enum": {"name": N, "values": […]}}` makes an enumeration class; and
`{"openapi": schema, "field": name}` is the field type of a schema.

Reading a form can go wrong in two ways: the form itself is malformed (a text says
how), or building the annotation fails as the generator fails (a fault).
-/

namespace TransitKit.Typing

/-- Reading a JSON form: a malformed form is a text, a failure of the generator a
fault. -/
abbrev Reading := ExceptT Fault (Except String)

/-- A form that cannot be read. -/
def malformed {α : Type} (msg : String) : Reading α := ExceptT.lift (.error msg)

/-- An outcome of the generator inside a reading. -/
def generated {α : Type} (o : Outcome α) : Reading α := ExceptT.mk (.ok o)

/-- The builtin classes written by name. -/
def builtinNames : List String := ["str", "int", "float", "bool", "dict", "list"]

/-- The items of a list form. -/
def listForm (j : Json) : Reading (List Json) :=
  match j with
  | .arr xs => pure xs
  | _ => malformed "expected a list of types"

namespace TypeHint

/-- Reads an annotation with `fuel` bounding the nesting; `models` gives what a model
name stands for, and `origin` is the place of the form, where an enumeration class made
by it is made. -/
def ofJsonWith (models : String → TypeHint) : Nat → List Nat → Json → Reading TypeHint
  | 0, _, _ => malformed "type nested too deeply"
  | fuel + 1, origin, j =>
    let sub (i : Nat) (x : Json) := ofJsonWith models fuel (origin ++ [i]) x
    let subs (xs : List Json) : Reading (List TypeHint) :=
      (xs.zipIdx.mapM fun (x, i) => sub i x)
    match j with
    | .str "Any" => pure (.cls .anything)
    | .str "None" => pure none
    | .str n => if builtinNames.contains n then pure (.cls (.builtin n))
      else malformed s!"unknown type {n}"
    | .obj [("ref", .str t)] => generated (ref? t)
    | .obj [("ref", _)] => generated (.error (.plain .wrongShape))
    | .obj [("model", .str n)] => pure (models n)
    | .obj [("list", t)] => do return .generic .list [← sub 0 t]
    | .obj [("dict", ts)] => do return .generic .dict (← subs (← listForm ts))
    | .obj [("optional", t)] => do return (← sub 0 t).or none
    | .obj [("union", ts)] => do
      match ← subs (← listForm ts) with
      | x :: xs => return orAll x xs
      | [] => generated (.error (.plain .wrongShape))
    | .obj [("Union", ts)] => do
      match ← subs (← listForm ts) with
      | x :: xs => return unionOf x xs
      | [] => generated (.error (.plain .wrongShape))
    | .obj [("Optional", t)] => do return unionOf (← sub 0 t) [none]
    | .obj [("enum", e)] =>
      match e.get? "name", e.get? "values" with
      | some (.str n), some (.arr vs) => do
        return .cls (.enumeration (← generated (EnumClass.make? n origin vs)))
      | _, _ => malformed "an enum needs a name and values"
    | .obj fs =>
      match Json.lookup fs "openapi" with
      | some spec =>
        let field := match Json.lookup fs "field" with
          | some (.str f) => f
          | _ => ""
        generated (fieldType origin spec field)
      | Option.none => malformed "unknown type form"
    | _ => malformed "unknown type form"

/-- Reads an annotation; `models` gives what a model name stands for. -/
def ofJson (models : String → TypeHint) (j : Json) : Reading TypeHint :=
  ofJsonWith models (j.depth + 1) [] j

end TypeHint

/-- The members of an enumeration class as JSON pairs of name and value. -/
def membersJson (e : EnumClass) : Json :=
  .arr (e.members.map fun (k, v) => .arr [.str k, v])

/-- An enumeration class as JSON: its name and members. -/
def enumJson (e : EnumClass) : Json :=
  .obj [("name", .str e.name), ("members", membersJson e)]

/-- A list of texts as JSON. -/
def textsJson (xs : List String) : Json := .arr (xs.map .str)

namespace TypeHint

/-- The views of an annotation as JSON: its declared text, its text with circular
references quoted, its parts, the typing names it needs, and, when `replaced` is set,
the quoted text after circular classes are replaced. -/
def viewsJson (a : TypeHint) (circular : List String) (replaced : Bool) : Outcome Json := do
  let typeStr ← a.typeText
  let imports ← a.typingImports circular
  let base := [("type_str", Json.str typeStr), ("resolved", .str (a.resolvedText circular)),
    ("inner", textsJson a.innerNames), ("typing_imports", textsJson imports)]
  if replaced then
    let r ← a.replaceCircular circular
    return .obj (base ++ [("replaced", .str (r.resolvedText circular))])
  else return .obj base

end TypeHint

end TransitKit.Typing
