import TransitKit.Typing.Basic
import TransitKit.Json.Literal
import TransitKit.Text.Blank
import TransitKit.Text.Pieces

/-!
# Displayed texts of annotations

Models are compared, and their references found, by the text an annotation displays as: a class
as `<class 'int'>` or `<class 'models.Line'>`, an enumeration class as `<enum 'ModeEnum'>`, the
class of anything as `typing.Any`, a forward reference as `ForwardRef('Line')`, and a class in a
container or union by its qualified name, with `None` for its class in a `|` union. A typing
union of two arguments, one of them `None`, displays as `typing.Optional[X]`, any other as
`typing.Union[A, B]`. Only the part after the last dot is read back, so the modules `models` and
`enums` only tell the two kinds of class apart.
-/

namespace TransitKit.Typing

/-- The module in which generated model classes are shown. -/
def modelModule : String := "models"

/-- The module in which enumeration classes are shown. -/
def enumModule : String := "enums"

/-- A class by its qualified name: builtin classes bare, others with their module. -/
def TypeClass.qualified : TypeClass → String
  | .builtin n => n
  | .anything => "typing.Any"
  | .noneClass => "NoneType"
  | .model n => modelModule ++ "." ++ n
  | .enumeration e => enumModule ++ "." ++ e.name

/-- The displayed text of a class on its own. -/
def TypeClass.display : TypeClass → String
  | .anything => "typing.Any"
  | .enumeration e => "<enum " ++ quoteText e.name ++ ">"
  | c => "<class '" ++ c.qualified ++ "'>"

namespace TypeHint

/-- The displayed text of an annotation. `inner` tells whether it stands inside a
container or a typing union, where a class shows its qualified name; `barItem` whether
it stands in a `|` union, where the class of `None` shows as `None`. -/
def shown (inner barItem : Bool) : TypeHint → String
  | .cls c =>
    if barItem && c matches .noneClass then "None"
    else if inner then c.qualified
    else c.display
  | .ref t => "ForwardRef(" ++ quoteText t ++ ")"
  | .generic o [] => o.name ++ "[()]"
  | .generic o args => o.name ++ "[" ++ ", ".intercalate (args.map (shown true false)) ++ "]"
  | .bar args => " | ".intercalate (args.map (shown true true))
  | .union [a, b] =>
    if a.isNone then "typing.Optional[" ++ shown true false b ++ "]"
    else if b.isNone then "typing.Optional[" ++ shown true false a ++ "]"
    else "typing.Union[" ++ shown true false a ++ ", " ++ shown true false b ++ "]"
  | .union args => "typing.Union[" ++ ", ".intercalate (args.map (shown true false)) ++ "]"

/-- The displayed text of an annotation on its own. -/
def displayText (a : TypeHint) : String := a.shown false false

/-- The name a displayed text refers to: the part after its last dot, without
apostrophes and closing angle brackets at either end. -/
def referenceName (a : TypeHint) : String :=
  Text.stripChars [Char.ofNat 39, '>'] (Text.lastPiece '.' a.displayText)

theorem displayText_model (n : String) :
    (TypeHint.cls (.model n)).displayText = "<class '" ++ (modelModule ++ "." ++ n) ++ "'>" := by
  simp [displayText, shown, TypeClass.display, TypeClass.qualified]

end TypeHint

end TransitKit.Typing
