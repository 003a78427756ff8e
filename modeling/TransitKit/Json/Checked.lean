import TransitKit.Json.Writer
import TransitKit.Fault

/-!
# Mapping operations with the texts of their failures

Scripts read JSON answers with the runtime's operations on mappings, lists and texts, and print
the failures they catch. These functions read a value the same way and fail with the runtime's
kind and text: indexing by a name, taking a member or a default, asking whether a name is in a
value, iterating and counting. A `Dict` is a mapping whose keys are compared as the runtime
compares them.
-/

namespace TransitKit.Json

/-- The runtime's name for the kind of a value. -/
def className : Json → String
  | .null => "NoneType"
  | .bool _ => "bool"
  | .int _ => "int"
  | .float _ => "float"
  | .str _ => "str"
  | .arr _ => "list"
  | .obj _ => "dict"

/-- The failure of a method that a value does not have. -/
def noMethod (v : Json) (name : String) : Failure :=
  ⟨.noSuchMember, "'" ++ v.className ++ "' object has no attribute '" ++ name ++ "'"⟩

/-- The failure of iterating a value that cannot be iterated. -/
def notIterable (v : Json) : Failure :=
  ⟨.wrongShape, "'" ++ v.className ++ "' object is not iterable"⟩

/-- The member `k`, which must be there. -/
def member (j : Json) (k : String) : Except Failure Json :=
  match j with
  | .obj fs =>
    match lookup fs k with
    | some v => .ok v
    | none => .error ⟨.missingKey, quoteText k⟩
  | .str _ => .error ⟨.wrongShape, "string indices must be integers, not 'str'"⟩
  | .arr _ => .error ⟨.wrongShape, "list indices must be integers or slices, not str"⟩
  | v => .error ⟨.wrongShape, "'" ++ v.className ++ "' object is not subscriptable"⟩

/-- The member `k`, or `d` when it is absent; only a mapping has this method. -/
def memberOr (j : Json) (k : String) (d : Json) : Except Failure Json :=
  match j with
  | .obj fs => .ok ((lookup fs k).getD d)
  | v => .error (noMethod v "get")

/-- Whether the name `k` is in a value: a key of a mapping, a part of a text, an item of
a list. -/
def holds (j : Json) (k : String) : Except Failure Bool :=
  match j with
  | .obj fs => .ok (fs.any (·.1 == k))
  | .str s => .ok (k.isEmpty || (s.splitOn k).length > 1)
  | .arr xs => .ok (xs.any fun x => sameValue x (.str k))
  | v => .error ⟨.wrongShape, "argument of type '" ++ v.className ++ "' is not iterable"⟩

/-- The items met when a value is iterated. -/
def items (j : Json) : Except Failure (List Json) :=
  match j with
  | .arr xs => .ok xs
  | .obj fs => .ok (fs.map fun (k, _) => .str k)
  | .str s => .ok (s.toList.map fun c => .str (String.singleton c))
  | v => .error (notIterable v)

/-- The number of items met when a value is iterated. -/
def size (j : Json) : Except Failure Nat :=
  match j with
  | .arr xs => .ok xs.length
  | .obj fs => .ok fs.length
  | .str s => .ok s.length
  | v => .error ⟨.wrongShape, "object of type '" ++ v.className ++ "' has no len()"⟩

/-- Checks that a value can be a key: lists and mappings cannot. -/
def hashable (j : Json) : Except Failure Unit :=
  match j with
  | .arr _ | .obj _ => .error ⟨.wrongShape, "unhashable type: '" ++ j.className ++ "'"⟩
  | _ => .ok ()

/-- The lower-case form of a text, by `lower`; only texts have this method. -/
def lowered (lower : String → String) (j : Json) : Except Failure String :=
  match j with
  | .str s => .ok (lower s)
  | v => .error (noMethod v "lower")

end TransitKit.Json

namespace TransitKit

/-- A mapping with JSON keys, in the order the keys were first stored. -/
structure Dict where
  entries : List (Json × Json) := []
deriving Inhabited

namespace Dict

/-- The value stored under a key equal to `k`. -/
def get? (d : Dict) (k : Json) : Option Json :=
  (d.entries.find? fun (k', _) => Json.sameValue k' k).map (·.2)

/-- Stores `v` under `k`: an equal key keeps its place and its first form. -/
def set (d : Dict) (k v : Json) : Dict :=
  if d.entries.any fun (k', _) => Json.sameValue k' k then
    ⟨d.entries.map fun (k', w) => if Json.sameValue k' k then (k', v) else (k', w)⟩
  else ⟨d.entries ++ [(k, v)]⟩

/-- Stores `v` under `k` after checking that `k` can be a key. -/
def insert (d : Dict) (k v : Json) : Except Failure Dict := do
  Json.hashable k
  return d.set k v

/-- The number of keys. -/
def size (d : Dict) : Nat := d.entries.length

/-- The pair of key and value that an item of an update gives: a list, mapping or text
of two items. -/
def updatePair (i : Nat) (item : Json) : Except Failure (Json × Json) := do
  let parts ← match item with
    | .arr _ | .obj _ | .str _ => Json.items item
    | _ => throw ⟨.wrongShape,
        "cannot convert dictionary update sequence element #" ++ toString i ++ " to a sequence"⟩
  match parts with
  | [k, v] => return (k, v)
  | _ => throw ⟨.badValue, "dictionary update sequence element #" ++ toString i ++ " has length " ++
      toString parts.length ++ "; 2 is required"⟩

/-- Updates a mapping from a value: the members of a mapping, or else the pairs met when
the value is iterated. -/
def update (d : Dict) (x : Json) : Except Failure Dict :=
  match x with
  | .obj fs => .ok (fs.foldl (fun acc (k, v) => acc.set (.str k) v) d)
  | _ => do
    let its ← Json.items x
    its.zipIdx.foldlM (fun acc (item, i) => do
      let (k, v) ← updatePair i item
      acc.insert k v) d

/-- How a key is written as a member name of a JSON object. -/
def keyText : Json → String
  | .str s => s
  | .int n => toString n
  | .bool true => "true"
  | .bool false => "false"
  | .null => "null"
  | j => Json.compact j

/-- The mapping as a JSON object. -/
def toJson (d : Dict) : Json := .obj (d.entries.map fun (k, v) => (keyText k, v))

theorem set_empty (k v : Json) : Dict.set {} k v = ⟨[(k, v)]⟩ := by
  simp [set]

end Dict

end TransitKit
