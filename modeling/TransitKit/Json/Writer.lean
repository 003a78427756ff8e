import TransitKit.Json.Literal
import TransitKit.Text.CodePoint

/-!
# Writing JSON text

A value is written with members in their order. A layout chooses the separators, the
indentation and whether characters outside ASCII are escaped. Texts use the short escapes and
`\u` escapes in lower-case hex, doubles their shortest text, and with an indentation every item
and member goes on a line of its own while empty arrays and objects stay as they are.
-/

namespace TransitKit

open Number

/-- How a value is laid out as JSON text. -/
structure JsonLayout where
  indent : Option Nat
  asciiOnly : Bool
  itemSep : String
  keySep : String

/-- One line, `", "` and `": "` separators, ASCII output. -/
def JsonLayout.compact : JsonLayout := ⟨none, true, ", ", ": "⟩

/-- Indented by `n`, `","` and `": "` separators. -/
def JsonLayout.indented (n : Nat) (asciiOnly : Bool) : JsonLayout := ⟨some n, asciiOnly, ",", ": "⟩

/-- The escape of one character inside a JSON text. -/
def jsonEscapeChar (asciiOnly : Bool) (c : Char) : String :=
  if c == '"' then "\\\""
  else if c == '\\' then "\\\\"
  else if c == '\n' then "\\n"
  else if c == '\r' then "\\r"
  else if c == '\t' then "\\t"
  else if c == '\x08' then "\\b"
  else if c == '\x0c' then "\\f"
  else if c.toNat < 0x20 then "\\u" ++ hexPadded c.toNat 4
  else if asciiOnly && c.toNat > 0x7E then
    if Text.codePoint c ≤ 0xFFFF then "\\u" ++ hexPadded (Text.codePoint c) 4
    else
      let v := c.toNat - 0x10000
      "\\u" ++ hexPadded (0xD800 + v / 0x400) 4 ++ "\\u" ++ hexPadded (0xDC00 + v % 0x400) 4
  else String.ofList [c]

/-- A text as a JSON string literal. -/
def jsonQuote (asciiOnly : Bool) (s : String) : String :=
  "\"" ++ String.join (s.toList.map (jsonEscapeChar asciiOnly)) ++ "\""

namespace Json

/-- The break before an item at a depth: a new line and indentation, or nothing. -/
def lineBreak (l : JsonLayout) (depth : Nat) : String :=
  match l.indent with
  | some n => "\n" ++ String.ofList (List.replicate (n * depth) ' ')
  | none => ""

mutual
/-- The JSON text of a value at a nesting depth. -/
def render (l : JsonLayout) (depth : Nat) : Json → String
  | .null => "null"
  | .bool true => "true"
  | .bool false => "false"
  | .int n => toString n
  | .float x => floatTextWith jsonSpecials x
  | .str s => jsonQuote l.asciiOnly s
  | .arr [] => "[]"
  | .arr xs => "[" ++ renderItems l (depth + 1) xs ++ lineBreak l depth ++ "]"
  | .obj [] => "\x7b\x7d"
  | .obj fs => "\x7b" ++ renderMembers l (depth + 1) fs ++ lineBreak l depth ++ "\x7d"

/-- Items, each after a line break, separated by the item separator. -/
def renderItems (l : JsonLayout) (depth : Nat) : List Json → String
  | [] => ""
  | [x] => lineBreak l depth ++ render l depth x
  | x :: xs => lineBreak l depth ++ render l depth x ++ l.itemSep ++ renderItems l depth xs

/-- Members `"key": value`, each after a line break, separated by the item separator. -/
def renderMembers (l : JsonLayout) (depth : Nat) : List (String × Json) → String
  | [] => ""
  | [(k, v)] => lineBreak l depth ++ jsonQuote l.asciiOnly k ++ l.keySep ++ render l depth v
  | (k, v) :: rest =>
    lineBreak l depth ++ jsonQuote l.asciiOnly k ++ l.keySep ++ render l depth v ++ l.itemSep ++
      renderMembers l depth rest
end

/-- The JSON text of a value in a layout. -/
def write (l : JsonLayout) (j : Json) : String := render l 0 j

/-- The one-line JSON text of a value with ASCII output. -/
def compact (j : Json) : String := write .compact j

end Json

end TransitKit
