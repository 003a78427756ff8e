import TransitKit.Typing.Basic

/-!
# Texts and parts of annotations

The generator writes an annotation in several ways and reads it back in parts: the text a field
is declared with, the same with forward references to circular models quoted, the classes it is
made of from the outside in, the annotation with circular models replaced by forward
references, and the typing names its text mentions.
-/

namespace TransitKit.Typing

open Text

/-- The public names of the typing library. -/
def typingNames : List String :=
  ["AbstractSet", "Annotated", "Any", "AnyStr", "AsyncContextManager", "AsyncGenerator",
   "AsyncIterable", "AsyncIterator", "Awaitable", "BinaryIO", "ByteString", "Callable",
   "ChainMap", "ClassVar", "Collection", "Concatenate", "Container", "ContextManager",
   "Coroutine", "Counter", "DefaultDict", "Deque", "Dict", "Final", "ForwardRef", "FrozenSet",
   "Generator", "Generic", "Hashable", "IO", "ItemsView", "Iterable", "Iterator", "KeysView",
   "List", "Literal", "LiteralString", "Mapping", "MappingView", "Match", "MutableMapping",
   "MutableSequence", "MutableSet", "NamedTuple", "Never", "NewType", "NoReturn",
   "NotRequired", "Optional", "OrderedDict", "ParamSpec", "ParamSpecArgs", "ParamSpecKwargs",
   "Pattern", "Protocol", "Required", "Reversible", "Self", "Sequence", "Set", "Sized",
   "SupportsAbs", "SupportsBytes", "SupportsComplex", "SupportsFloat", "SupportsIndex",
   "SupportsInt", "SupportsRound", "TYPE_CHECKING", "Text", "TextIO", "Tuple", "Type",
   "TypeAlias", "TypeGuard", "TypeVar", "TypeVarTuple", "TypedDict", "Union", "Unpack",
   "ValuesView", "assert_never", "assert_type", "cast", "clear_overloads",
   "dataclass_transform", "final", "get_args", "get_origin", "get_overloads",
   "get_type_hints", "is_typeddict", "no_type_check", "no_type_check_decorator", "overload",
   "reveal_type", "runtime_checkable"]

/-- Whether a word occurs in a text with no word character right before or after it.
`prev` is the character before the text, if any. -/
def occursAsWord (w : List Char) : Option Char → List Char → Bool
  | _, [] => false
  | prev, c :: rest =>
    let before := match prev with
      | some p => !isWordChar p
      | none => true
    let after := match ((c :: rest).drop w.length).head? with
      | some n => !isWordChar n
      | none => true
    (before && w.isPrefixOf (c :: rest) && after) || occursAsWord w (some c) rest

namespace TypeHint

/-- The text a field is declared with. A container without the arguments it writes is
out of range. -/
def typeText : TypeHint → Outcome String
  | .ref t => .ok t
  | .cls .noneClass => .ok "None"
  | .cls c => .ok c.name
  | .bar [a, b] =>
    if b.isNone then a.typeText.map (· ++ " | None")
    else if a.isNone then b.typeText.map (· ++ " | None")
    else do
      let x ← a.typeText
      let y ← b.typeText
      return x ++ " | " ++ y
  | .bar args => (args.mapM typeText).map (" | ".intercalate ·)
  | .generic .list (a :: _) => a.typeText.map fun s => "list[" ++ s ++ "]"
  | .generic .list [] => .error (.plain .outOfRange)
  | .generic .dict (k :: v :: _) => do
    let ks ← k.typeText
    let vs ← v.typeText
    return "dict[" ++ ks ++ ", " ++ vs ++ "]"
  | .generic .dict _ => .error (.plain .outOfRange)
  | .union [a, b] =>
    if b.isNone then a.typeText.map (· ++ " | None")
    else if a.isNone then b.typeText.map (· ++ " | None")
    else do
      let x ← a.typeText
      let y ← b.typeText
      return "Union[" ++ x ++ ", " ++ y ++ "]"
  | .union args => (args.mapM typeText).map fun ts => "Union[" ++ ", ".intercalate ts ++ "]"

/-- The text of an annotation with forward references to circular models quoted. -/
def resolvedText (circular : List String) : TypeHint → String
  | .ref t => if circular.contains t then "'" ++ t ++ "'" else t
  | .cls .noneClass => "None"
  | .cls c => c.name
  | .bar [a, b] =>
    if b.isNone then a.resolvedText circular ++ " | None"
    else if a.isNone then b.resolvedText circular ++ " | None"
    else a.resolvedText circular ++ " | " ++ b.resolvedText circular
  | .bar args => " | ".intercalate (args.map (resolvedText circular))
  | .union [a, b] =>
    if b.isNone then a.resolvedText circular ++ " | None"
    else if a.isNone then b.resolvedText circular ++ " | None"
    else "Union[" ++ a.resolvedText circular ++ ", " ++ b.resolvedText circular ++ "]"
  | .union args => "Union[" ++ ", ".intercalate (args.map (resolvedText circular)) ++ "]"
  | .generic o args => o.name ++ "[" ++ ", ".intercalate (args.map (resolvedText circular)) ++ "]"

/-- A part of an annotation: a forward reference by its text, or anything else by its
name. -/
inductive Part where
  | forward (text : String)
  | named (name : String)
deriving Repr, BEq, Inhabited

/-- The name under which a part is listed. -/
def Part.label : Part → String
  | .forward t => "ForwardRef:" ++ t
  | .named n => n

/-- The parts an annotation is made of, from the outside in: a union gives `UnionType` or
`Union` and then the parts of its arguments other than `None`; a container gives its
class and then the parts of its arguments. -/
def parts : TypeHint → List Part
  | .ref t => [.forward t]
  | .cls c => [.named c.name]
  | .bar args => .named "UnionType" :: (args.filter (!·.isNone)).flatMap parts
  | .union args => .named "Union" :: (args.filter (!·.isNone)).flatMap parts
  | .generic o args => .named o.name :: args.flatMap parts

/-- The classes an annotation is made of, from the outside in. -/
def innerNames (a : TypeHint) : List String := a.parts.map Part.label

/-- The enumeration classes an annotation is made of, from the outside in. -/
def enums : TypeHint → List EnumClass
  | .cls (.enumeration e) => [e]
  | .cls _ | .ref _ => []
  | .bar args => (args.filter (!·.isNone)).flatMap enums
  | .union args => (args.filter (!·.isNone)).flatMap enums
  | .generic _ args => args.flatMap enums

/-- Replaces every class whose name is circular by a forward reference to the name; a
union is rebuilt from its new arguments, a `|` union with `|`, a typing union as a
typing union. -/
def replaceCircular (circular : List String) : TypeHint → Outcome TypeHint
  | .cls c => if circular.contains c.name then ref? c.name else .ok (.cls c)
  | .ref t => .ok (.ref t)
  | .generic o args => do
    let new ← args.mapM (replaceCircular circular)
    return .generic o new
  | .bar args => do
    match ← args.mapM (replaceCircular circular) with
    | x :: xs => return orAll x xs
    | [] => return .bar []
  | .union args => do
    match ← args.mapM (replaceCircular circular) with
    | x :: xs => return unionOf x xs
    | [] => return .union []

/-- The typing names a field of this annotation needs, sorted. -/
def typingImports (circular : List String) (a : TypeHint) : Outcome (List String) := do
  let text ← a.typeText
  let found := typingNames.filter fun n => occursAsWord n.toList Option.none text.toList
  let found := if circular.contains text then "ForwardRef" :: found else found
  return (found.mergeSort (· ≤ ·)).eraseDups

theorem typeText_ref (t : String) : (TypeHint.ref t).typeText = .ok t := by
  simp [typeText]

end TypeHint

end TransitKit.Typing
