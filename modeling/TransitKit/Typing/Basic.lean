import TransitKit.Typing.EnumClass
import TransitKit.Typing.Expression

/-!
# Type annotations

A field's annotation is built from classes, forward references, containers with type arguments
and unions of two kinds: the union written with `|`, and the union of the typing library, which
is also what `|` makes as soon as a forward reference or such a union takes part. Both flatten
nested unions, keep the first of equal arguments, and stand for their only argument when one is
left.
-/

namespace TransitKit.Typing

/-- The containers that take type arguments. -/
inductive Container where
  | list
  | dict
deriving Repr, BEq, DecidableEq, Inhabited

/-- The class name of a container. -/
def Container.name : Container → String
  | .list => "list"
  | .dict => "dict"

/-- A class that can stand in an annotation. -/
inductive TypeClass where
  /-- A builtin class: `str`, `int`, `float`, `bool`, `dict` or `list`. -/
  | builtin (name : String)
  /-- The class that every value belongs to. -/
  | anything
  /-- The class of `None`. -/
  | noneClass
  /-- A model class, by its name. -/
  | model (name : String)
  /-- An enumeration class. -/
  | enumeration (e : EnumClass)
deriving Inhabited

/-- The name of a class. -/
def TypeClass.name : TypeClass → String
  | .builtin n => n
  | .anything => "Any"
  | .noneClass => "NoneType"
  | .model n => n
  | .enumeration e => e.name

/-- A type annotation. -/
inductive TypeHint where
  | cls (c : TypeClass)
  | ref (text : String)
  | generic (origin : Container) (args : List TypeHint)
  /-- A union written with `|` between classes and containers. -/
  | bar (args : List TypeHint)
  /-- A union of the typing library. -/
  | union (args : List TypeHint)
deriving Inhabited

namespace TypeHint

/-- The annotation of `None`. -/
def none : TypeHint := .cls .noneClass

/-- Whether an annotation is the class of `None`. -/
def isNone : TypeHint → Bool
  | .cls .noneClass => true
  | _ => false

/-- A text that names its own end: its length, a colon, and the text. -/
def framed (s : String) : String := toString s.length ++ ":" ++ s

/-- The identity of a class: builtin classes by name, model classes by name,
enumeration classes by the place where they were made. -/
def classKey : TypeClass → String
  | .builtin n => "B" ++ framed n
  | .anything => "A"
  | .noneClass => "N"
  | .model n => "M" ++ framed n
  | .enumeration e => "E" ++ framed (toString e.origin)

/-- A canonical text of an annotation: equal annotations, and only they, share it.
Classes compare by identity, forward references by their text, containers by origin and
arguments, and unions of either kind as the sets of their arguments. -/
def key : TypeHint → String
  | .cls c => classKey c
  | .ref t => "R" ++ framed t
  | .generic o args => (if o == .list then "L(" else "D(") ++ String.join (args.map key) ++ ")"
  | .bar args => "U(" ++ String.join ((args.map key).mergeSort (· ≤ ·)).eraseDups ++ ")"
  | .union args => "U(" ++ String.join ((args.map key).mergeSort (· ≤ ·)).eraseDups ++ ")"

/-- Whether two annotations are equal. -/
def same (a b : TypeHint) : Bool := a.key == b.key

/-- Keeps the first of each group of equal annotations. -/
def dedup (xs : List TypeHint) : List TypeHint :=
  (xs.foldl (fun (acc : List TypeHint × List String) x =>
    if acc.2.contains x.key then acc else (x :: acc.1, x.key :: acc.2)) ([], [])).1.reverse

/-- Whether an annotation takes part in a `|` union: classes, containers and such
unions. -/
def joinsBar : TypeHint → Bool
  | .cls _ | .generic _ _ | .bar _ => true
  | .ref _ | .union _ => false

/-- The arguments of a `|` union of a list, with nested `|` unions opened. -/
def barArgs : List TypeHint → List TypeHint
  | [] => []
  | .bar xs :: rest => xs ++ barArgs rest
  | x :: rest => x :: barArgs rest

/-- The arguments of a typing union of a list, with nested unions of both kinds
opened. -/
def unionArgs : List TypeHint → List TypeHint
  | [] => []
  | .bar xs :: rest => xs ++ unionArgs rest
  | .union xs :: rest => xs ++ unionArgs rest
  | x :: rest => x :: unionArgs rest

/-- A `|` union of a list, or its only argument. -/
def barOf (xs : List TypeHint) : TypeHint :=
  match dedup (barArgs xs) with
  | [x] => x
  | ys => .bar ys

/-- The typing library's union of a non-empty list, or its only argument. -/
def unionOf (first : TypeHint) (rest : List TypeHint) : TypeHint :=
  match dedup (unionArgs (first :: rest)) with
  | [x] => x
  | ys => .union ys

/-- The union that `|` makes: a `|` union when both sides take part in one, else the
typing library's union. -/
def or (a b : TypeHint) : TypeHint :=
  if a.joinsBar && b.joinsBar then barOf [a, b] else unionOf a [b]

/-- `|` over a non-empty list, from the left. -/
def orAll (first : TypeHint) (rest : List TypeHint) : TypeHint :=
  rest.foldl or first

/-- A forward reference to the type a text names. The text must not be empty and must
be one expression. -/
def ref? (text : String) : Outcome TypeHint :=
  if text.isEmpty then .error (.plain .outOfRange)
  else if isExpression text then .ok (.ref text)
  else .error (.plain .badExpression)

theorem or_none_of_joinsBar (a : TypeHint) (h : a.joinsBar = true) :
    a.or none = barOf [a, none] := by
  have hn : none.joinsBar = true := rfl
  simp only [or, h, hn, Bool.and_self, if_true]

end TypeHint

end TransitKit.Typing
