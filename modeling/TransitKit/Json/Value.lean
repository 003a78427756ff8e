import TransitKit.Number.Shortest
/-!
# JSON values

A JSON value whose objects keep their members in the order they were written. Numbers
are either integers of any size or doubles, as a reader that distinguishes `1` from
`1.0` produces them. An object is a list of members with distinct keys; setting a key
that is present replaces its value in place, and a new key goes to the end.
-/

namespace TransitKit

/-- A JSON value; objects keep member order. -/
inductive Json where
  | null
  | bool (b : Bool)
  | int (n : Int)
  | float (x : Float)
  | str (s : String)
  | arr (items : List Json)
  | obj (fields : List (String × Json))
deriving Inhabited

namespace Json

/-- The member `k` of an object. -/
def lookup (fields : List (String × Json)) (k : String) : Option Json :=
  (fields.find? (·.1 == k)).map (·.2)

/-- The member `k`, if the value is an object that has it. -/
def get? : Json → String → Option Json
  | .obj fs, k => lookup fs k
  | _, _ => none

/-- Whether the value is an object with member `k`. -/
def has (j : Json) (k : String) : Bool := (j.get? k).isSome

/-- Replaces the value of `k` where it stands, or appends the member. -/
def setField (fields : List (String × Json)) (k : String) (v : Json) :
    List (String × Json) :=
  if fields.any (·.1 == k) then fields.map fun p => if p.1 == k then (k, v) else p
  else fields ++ [(k, v)]

/-- Sets member `k` of an object; other values are returned unchanged. -/
def set : Json → String → Json → Json
  | .obj fs, k, v => .obj (setField fs k v)
  | j, _, _ => j

/-- Removes member `k` of an object. -/
def erase : Json → String → Json
  | .obj fs, k => .obj (fs.filter (·.1 != k))
  | j, _ => j

/-- The text, if the value is a string. -/
def str? : Json → Option String
  | .str s => some s
  | _ => none

/-- The items, if the value is an array. -/
def arr? : Json → Option (List Json)
  | .arr xs => some xs
  | _ => none

/-- The members, if the value is an object. -/
def obj? : Json → Option (List (String × Json))
  | .obj fs => some fs
  | _ => none

/-- The truth value, if the value is a boolean. -/
def bool? : Json → Option Bool
  | .bool b => some b
  | _ => none

/-- The integer, if the value is an integer (booleans excluded). -/
def int? : Json → Option Int
  | .int n => some n
  | _ => none

/-- Whether the value is `null`. -/
def isNull : Json → Bool
  | .null => true
  | _ => false

/-- Whether the value is an object. -/
def isObj : Json → Bool
  | .obj _ => true
  | _ => false

/-- Whether the value is an array. -/
def isArr : Json → Bool
  | .arr _ => true
  | _ => false

/-- Whether the value is a string. -/
def isStr : Json → Bool
  | .str _ => true
  | _ => false

/-- A value as a condition: `null`, `false`, zero, and empty texts, arrays and objects
are false; everything else is true. -/
def truthy : Json → Bool
  | .null => false
  | .bool b => b
  | .int n => n != 0
  | .float x => x != 0
  | .str s => !s.isEmpty
  | .arr xs => !xs.isEmpty
  | .obj fs => !fs.isEmpty

mutual
/-- The nesting depth of a value: 0 for a scalar, and one more than the deepest item or
member for an array or object. -/
def depth : Json → Nat
  | .arr xs => itemsDepth xs + 1
  | .obj fs => membersDepth fs + 1
  | _ => 0

/-- The greatest depth of a list of values, 0 for none. -/
def itemsDepth : List Json → Nat
  | [] => 0
  | x :: xs => max (depth x) (itemsDepth xs)

/-- The greatest depth of the values of a list of members, 0 for none. -/
def membersDepth : List (String × Json) → Nat
  | [] => 0
  | (_, v) :: fs => max (depth v) (membersDepth fs)
end

/-- The member `k` of an object, or `default` when it is absent. -/
def getD (j : Json) (k : String) (default : Json) : Json := (j.get? k).getD default

/-- The keys of an object in order. -/
def keys : Json → List String
  | .obj fs => fs.map (·.1)
  | _ => []

/-- A double with an integer value, as that integer. -/
def floatAsInt? (x : Float) : Option Int :=
  match Number.classify x with
  | .finite p =>
    let sign (n : Nat) : Int := if p.negative then -(n : Int) else n
    if 0 ≤ p.exponent then some (sign (p.mantissa * Nat.pow 2 p.exponent.toNat))
    else if p.mantissa % Nat.pow 2 (-p.exponent).toNat == 0 then
      some (sign (p.mantissa / Nat.pow 2 (-p.exponent).toNat))
    else none
  | _ => none

/-- The numeric reading of a number or boolean: `true` is `1`, `false` is `0`. -/
inductive Num where
  | whole (n : Int)
  | frac (x : Float)

/-- The number a value stands for, if it is a number or a boolean. -/
def num? : Json → Option Num
  | .bool b => some (.whole (if b then 1 else 0))
  | .int n => some (.whole n)
  | .float x => some (.frac x)
  | _ => none

/-- Two numbers are equal when they denote the same real number. -/
def Num.same : Num → Num → Bool
  | .whole a, .whole b => a == b
  | .frac x, .frac y => x == y
  | .whole a, .frac y => floatAsInt? y == some a
  | .frac x, .whole b => floatAsInt? x == some b

mutual
/-- Equality where numbers and booleans compare as numbers, texts by their characters,
arrays item by item, and objects as sets of members. -/
def sameValue : Json → Json → Bool
  | .null, .null => true
  | .str a, .str b => a == b
  | .arr xs, .arr ys => sameItems xs ys
  | .obj fs, .obj gs => fs.length == gs.length && sameMembers fs gs
  | a, b =>
    match a.num?, b.num? with
    | some x, some y => x.same y
    | _, _ => false

/-- Item-wise equality of two arrays. -/
def sameItems : List Json → List Json → Bool
  | [], [] => true
  | x :: xs, y :: ys => sameValue x y && sameItems xs ys
  | _, _ => false

/-- Every member of the first object has an equal member in the second. -/
def sameMembers : List (String × Json) → List (String × Json) → Bool
  | [], _ => true
  | (k, v) :: rest, gs =>
    (match lookupIn gs k with
     | some w => sameValue v w
     | none => false) && sameMembers rest gs

/-- The member `k` of an object's member list. -/
def lookupIn : List (String × Json) → String → Option Json
  | [], _ => none
  | (k', v) :: rest, k => if k' == k then some v else lookupIn rest k
end

end Json

end TransitKit
