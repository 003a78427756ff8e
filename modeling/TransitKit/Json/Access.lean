import TransitKit.Json.Value
import TransitKit.Fault

/-!
# Member access that fails like a mapping

The code generator reads OpenAPI documents with mapping operations that fail on values
of the wrong kind. These functions read a JSON value the same way:

* `index?` takes a member that must be there: a missing key is a missing key, and a
  value that is not an object cannot be indexed by a name;
* `getOr?` takes a member with a default: a value that is not an object has no such
  operation;
* `holds?` asks whether a key is there: an object by its keys, a text by its substrings
  and a list by its items; other values cannot be searched.
-/

namespace TransitKit.Json

/-- The member `k`, which must be present. -/
def index? (j : Json) (k : String) : Outcome Json :=
  match j with
  | .obj fs =>
    match lookup fs k with
    | some v => .ok v
    | none => .error (.plain .missingKey)
  | _ => .error (.plain .wrongShape)

/-- The member `k`, or `d` when it is absent. -/
def getOr? (j : Json) (k : String) (d : Json) : Outcome Json :=
  match j with
  | .obj fs => .ok ((lookup fs k).getD d)
  | _ => .error (.plain .noSuchMember)

/-- Whether `k` is in a value: a key of an object, a part of a text, an item of a list. -/
def holds? (j : Json) (k : String) : Outcome Bool :=
  match j with
  | .obj fs => .ok (fs.any (·.1 == k))
  | .str s => .ok (k.isEmpty || (s.splitOn k).length > 1)
  | .arr xs => .ok (xs.any fun x => match x with
    | .str t => t == k
    | _ => false)
  | _ => .error (.plain .wrongShape)

/-- The items of a value that is iterated: the items of a list, the characters of a
text, the keys of an object. Other values cannot be iterated. -/
def iterItems? : Json → Outcome (List Json)
  | .arr xs => .ok xs
  | .str s => .ok (s.toList.map fun c => .str (String.singleton c))
  | .obj fs => .ok (fs.map fun (k, _) => .str k)
  | _ => .error (.plain .wrongShape)

theorem index?_obj_cons (k : String) (v : Json) (rest : List (String × Json)) :
    index? (.obj ((k, v) :: rest)) k = .ok v := by
  simp [index?, lookup, List.find?]

end TransitKit.Json
