import TransitKit.Typing.Basic
import TransitKit.Text.CaseMap
import TransitKit.Json.Access

/-!
# Field types of OpenAPI schemas

The annotation of a property is read from its schema: a reference becomes a forward reference
to a class name, an enumeration an enumeration class named after the property, an array a list
of its items' annotation, and the OpenAPI type names their classes, any other `Any`. A schema
that is not an object fails as the generator's look-ups fail on it.
-/

namespace TransitKit.Typing

open Text

/-- The class an OpenAPI type name maps to. A list or an object cannot be looked up
and is a wrong shape; any other value that is not a known name maps to `Any`. -/
def openApiClass? : Json → Outcome TypeClass
  | .str "string" => .ok (.builtin "str")
  | .str "integer" => .ok (.builtin "int")
  | .str "boolean" => .ok (.builtin "bool")
  | .str "number" => .ok (.builtin "float")
  | .str "object" => .ok (.builtin "dict")
  | .str "array" => .ok (.builtin "list")
  | .arr _ | .obj _ => .error (.plain .wrongShape)
  | _ => .ok .anything

/-- The name of the enumeration class of a property: its first character in upper case,
the rest as it is, and `Enum`. An empty name has no first character. -/
def enumClassName (field : String) : Outcome String :=
  match field.toList with
  | c :: rest => .ok (upperText (String.singleton c) ++ String.ofList rest ++ "Enum")
  | [] => .error (.plain .outOfRange)

/-- The class name a reference points to: the last segment of its path. -/
def referencedName (ref : String) : String :=
  Naming.className (Text.lastPiece '/' ref)

/-- The annotation of a property's schema, with `fuel` bounding the nesting of arrays.
`origin` is where an enumeration class made here is made. -/
def fieldTypeWith : Nat → List Nat → Json → String → Outcome TypeHint
  | 0, _, _, _ => .error (.plain .failed)
  | fuel + 1, origin, spec, field => do
    if ← Json.holds? spec "$ref" then
      match spec with
      | .obj fs =>
        match Json.lookup fs "$ref" with
        | some (.str r) => return ← TypeHint.ref? (referencedName r)
        | _ => throw (.plain .noSuchMember)
      | _ => throw (.plain .wrongShape)
    let fs ← match spec with
      | .obj fs => pure fs
      | _ => throw (.plain .noSuchMember)
    let kind := (Json.lookup fs "type").getD (.str "Any")
    if let some values := Json.lookup fs "enum" then
      let name ← enumClassName field
      let values ← Json.iterItems? values
      return .cls (.enumeration (← EnumClass.make? name origin values))
    if kind.str? == some "array" then
      let items := (Json.lookup fs "items").getD (.obj [])
      if items.truthy then
        return .generic .list [← fieldTypeWith fuel (origin ++ [0]) items field]
      else return .generic .list [.cls .anything]
    return .cls (← openApiClass? kind)

/-- The annotation of a property's schema; `origin` is where an enumeration class made
here is made. -/
def fieldType (origin : List Nat) (spec : Json) (field : String) : Outcome TypeHint :=
  fieldTypeWith (spec.depth + 1) origin spec field

theorem openApiClass_string : openApiClass? (.str "string") = .ok (.builtin "str") := rfl

end TransitKit.Typing
