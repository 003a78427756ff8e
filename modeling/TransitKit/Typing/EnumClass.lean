import TransitKit.Json.Literal
import TransitKit.Naming.Names
import TransitKit.Fault

/-!
# Enumeration classes

An enumeration class is made from a list of values. Each value is named by the member
name of its plain text (`Naming.enumMemberName`); a name that is already taken gets the
suffix `_2`, `_3`, … counted per name, and a suffixed name that is itself taken
replaces that entry's value in place.

The entries then become the class's names in order. An entry whose value equals the
value of an earlier entry (where `1`, `1.0` and `true` are one value) is an alias of it:
it is a name of the class but not a member. A name that begins with `_`, the class
name and `__` is private to the class and is neither. The names `''` and `mro` cannot be
member names.
-/

namespace TransitKit.Typing

/-- An enumeration class: its name, the place in a description where it was made (two
classes made at different places are different classes, whatever their names), and its
names with their values in order of definition. -/
structure EnumClass where
  name : String
  origin : List Nat
  entries : List (String × Json)
deriving Inhabited

/-- Sets an entry: a present name keeps its place and takes the new value; a new name
goes to the end. -/
def setEntry (entries : List (String × Json)) (k : String) (v : Json) : List (String × Json) :=
  if entries.any (·.1 == k) then entries.map fun p => if p.1 == k then (k, v) else p
  else entries ++ [(k, v)]

/-- The entries named from a list of values, with the count of each name so far. -/
def namedEntries (values : List Json) : List (String × Json) :=
  let step := fun (st : List (String × Json) × List (String × Nat)) (v : Json) =>
    let (entries, counts) := st
    let base := Naming.enumMemberName v.text
    if entries.any (·.1 == base) then
      let n := ((counts.lookup base).getD 1) + 1
      let counts := (base, n) :: counts.filter (·.1 != base)
      (setEntry entries (base ++ "_" ++ toString n) v, counts)
    else (setEntry entries base v, (base, 1) :: counts.filter (·.1 != base))
  (values.foldl step ([], [])).1

/-- Whether a name is private to a class of the given name: it starts with `_`, the
class name and `__`, and has more after that. -/
def isPrivateName (className name : String) : Bool :=
  let pat := "_" ++ className ++ "__"
  name.length > pat.length && name.startsWith pat &&
    !(name.endsWith "__")

/-- The class of a name and a list of values, made at `origin`. Private names are left
out; an empty or `mro` name is a bad value. -/
def EnumClass.make? (name : String) (origin : List Nat) (values : List Json) :
    Outcome EnumClass :=
  let entries := (namedEntries values).filter fun (k, _) => !isPrivateName name k
  if entries.any fun (k, _) => k.isEmpty || k == "mro" then .error (.plain .badValue)
  else .ok ⟨name, origin, entries⟩

/-- The members of a class: the entries whose value equals no earlier entry's value. -/
def EnumClass.members (e : EnumClass) : List (String × Json) :=
  e.entries.foldl (fun acc (k, v) =>
    if acc.any fun (_, w) => Json.sameValue w v then acc else acc ++ [(k, v)]) []

/-- All names of a class, aliases included, in order of definition. -/
def EnumClass.names (e : EnumClass) : List String := e.entries.map (·.1)

theorem EnumClass.members_nil (n : String) (o : List Nat) :
    EnumClass.members ⟨n, o, []⟩ = [] := rfl

end TransitKit.Typing
