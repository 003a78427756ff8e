import TransitKit.Naming.Reserved
import TransitKit.Text.Blank
import TransitKit.Text.CaseMap
import TransitKit.Text.Digit
import TransitKit.Text.Pieces
import TransitKit.Text.WordChar

/-!
# Names in generated source

Schema names, property names, operation identifiers and enum values become class, field, method
and member names. A class name keeps the ASCII letters, digits, underscores and spaces, joins
capitalised words, keeps the part after the last underscore and prefixes a name that starts
with a digit or is reserved. A field name gets a suffix when reserved; member and method names
are upper- and snake-cased with their own guards against reserved words and leading digits.
-/

namespace TransitKit.Naming

open Text

/-- An ASCII letter, digit, underscore or space: the characters a class name keeps. -/
def isNameChar (c : Char) : Bool := c.isAlphanum || c == '_' || c == ' '

/-- Replaces every character outside a class by an underscore. -/
def replaceOutside (keep : Char → Bool) (s : String) : String :=
  String.ofList (s.toList.map fun c => if keep c then c else '_')

/-- The part of a text after its last underscore (all of it when there is none). -/
def afterLastUnderscore (s : String) : String := lastPiece '_' s

/-- Upper-cases the first ASCII letter of a word and lower-cases the rest. -/
def asciiCapitalize (w : String) : String :=
  match w.toList with
  | [] => ""
  | c :: cs => String.ofList (c.toUpper :: cs.map Char.toLower)

/-- Some ASCII lower-case letter and no ASCII capital. -/
def asciiIsLower (s : String) : Bool := s.toList.any Char.isLower && !s.toList.any Char.isUpper

/-- Starts with an ASCII digit. -/
def startsWithDigit (s : String) : Bool :=
  match s.toList with
  | c :: _ => c.isDigit
  | [] => false

/-- The class name of a schema or model name, with a prefix for names that cannot
stand alone. -/
def className (name : String) (pfx : String := "Model") : String :=
  let s := replaceOutside isNameChar name
  let ws := words s
  let s := match ws with
    | [] => s
    | [w] => w
    | _ => String.join (ws.map asciiCapitalize)
  let s := if hasChar s '_' then afterLastUnderscore s else s
  let s := if !s.isEmpty && asciiIsLower s then asciiCapitalize s else s
  if !s.isEmpty && (startsWithDigit s || isReserved s) then pfx ++ "_" ++ s else s

/-- The name of an array model built over a model. -/
def arrayModelName (name : String) : String := className name ++ "Array"

/-- A property name usable as a field: reserved words get the suffix `_field`. -/
def fieldName (name : String) : String := if isReserved name then name ++ "_field" else name

/-- The member name of an enum value's text. -/
def enumMemberName (value : String) : String :=
  let s := replaceOutside isWordChar value
  let s := match s.toList with
    | c :: _ => if isDigitLike c then "_" ++ s else s
    | [] => s
  upperText (stripCharsRight ['_'] s)

/-- Collapses runs of underscores to one. -/
def collapseUnderscores : List Char → List Char
  | '_' :: '_' :: rest => collapseUnderscores ('_' :: rest)
  | c :: rest => c :: collapseUnderscores rest
  | [] => []

/-- An underscore before every ASCII capital that is not the first character. -/
def splitCapitals (s : String) : List Char :=
  match s.toList with
  | [] => []
  | c :: cs => c :: cs.flatMap fun d => if 'A' ≤ d ∧ d ≤ 'Z' then ['_', d] else [d]

/-- The snake-case method name of an operation identifier. -/
def methodName (operationId : String) : String :=
  let s := lowerText (String.ofList (splitCapitals operationId))
  let s := s.toList.map fun c => if ('a' ≤ c ∧ c ≤ 'z') ∨ c.isDigit ∨ c = '_' then c else '_'
  let s := stripChars ['_'] (String.ofList (collapseUnderscores s))
  let s := if s.isEmpty then "unknown_method" else s
  let s := if isReserved s then s ++ "_method" else s
  if startsWithDigit s then "method_" ++ s else s

/-- The client method name of an operation identifier, with a prefix for names that
cannot stand alone. -/
def operationName (name : String) (pfx : String := "Query") : String :=
  let s := afterLastUnderscore (replaceOutside isNameChar name)
  let s := match words s with
    | [] => s
    | w :: rest =>
      let first := match w.toList with
        | c :: cs => if c.isLower then String.ofList (c.toUpper :: cs) else w
        | [] => w
      first ++ String.join (rest.map asciiCapitalize)
  if !s.isEmpty && (startsWithDigit s || isReserved (String.ofList (s.toList.map Char.toLower)))
  then pfx ++ "_" ++ s else s

/-- The base name of an API from its title: ` API` and ` Api` are removed, and a first
API called `Order` or `Test` is named `User`. -/
def apiBaseName (title : String) (index : Nat) : String :=
  let s := (title.replace " API" "").replace " Api" ""
  if (s == "Order" || s == "Test") && index == 0 then "User" else s

end TransitKit.Naming
