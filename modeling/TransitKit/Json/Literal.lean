import TransitKit.Json.Value
import TransitKit.Number.FloatText
import TransitKit.Text.Printable
import TransitKit.Text.CodePoint

/-!
# Values as source literals

The generated source and its messages write values as literals of the target language:
`None`, `True`, `False`, integers, doubles in shortest form, quoted texts, `[a, b]` and
`{'k': v}`. The plain text of a value is the text itself for a string and its literal
otherwise.

A quoted text uses single quotes unless it contains a single quote and no double quote.
Inside it, the backslash and the chosen quote are escaped, tab, line feed and carriage
return are written `\t`, `\n`, `\r`, other control characters and characters that are
not printable are written `\xhh`, `\uhhhh` or `\Uhhhhhhhh` (lower-case hex), and every
other character stands as it is.
-/

namespace TransitKit

open Text Number

/-- Lower-case hexadecimal digits of a number, padded to a width. -/
def hexPadded (n width : Nat) : String :=
  padLeft (String.ofList (Nat.toDigits 16 n)) width '0'

/-- One character inside a quoted text with quote `q`. -/
def quoteChar (q : Char) (c : Char) : String :=
  if c == q || c == '\\' then String.ofList ['\\', c]
  else if c == '\t' then "\\t"
  else if c == '\n' then "\\n"
  else if c == '\r' then "\\r"
  else if c.toNat < 0x20 || c.toNat == 0x7F then "\\x" ++ hexPadded c.toNat 2
  else if c.toNat < 0x7F then String.ofList [c]
  else if isPrintable c then String.ofList [c]
  else if c.toNat ≤ 0xFF then "\\x" ++ hexPadded c.toNat 2
  else if codePoint c ≤ 0xFFFF then "\\u" ++ hexPadded (codePoint c) 4
  else "\\U" ++ hexPadded c.toNat 8

/-- The apostrophe, the default quote of a literal text. -/
def apostrophe : Char := Char.ofNat 39

/-- A text as a quoted literal. -/
def quoteText (s : String) : String :=
  let q := if s.contains apostrophe && !s.contains '"' then '"' else apostrophe
  String.ofList [q] ++ String.join (s.toList.map (quoteChar q)) ++ String.ofList [q]

namespace Json

mutual
/-- The literal of a value. -/
def literal : Json → String
  | .null => "None"
  | .bool true => "True"
  | .bool false => "False"
  | .int n => toString n
  | .float x => floatText x
  | .str s => quoteText s
  | .arr xs => "[" ++ literalItems xs ++ "]"
  | .obj fs => "\x7b" ++ literalMembers fs ++ "\x7d"

/-- The literals of items, separated by a comma and a space. -/
def literalItems : List Json → String
  | [] => ""
  | [x] => literal x
  | x :: xs => literal x ++ ", " ++ literalItems xs

/-- The members of an object as `'key': literal`, separated by a comma and a space. -/
def literalMembers : List (String × Json) → String
  | [] => ""
  | [(k, v)] => quoteText k ++ ": " ++ literal v
  | (k, v) :: rest => quoteText k ++ ": " ++ literal v ++ ", " ++ literalMembers rest
end

/-- The plain text of a value: a string as it is, anything else as its literal. -/
def text : Json → String
  | .str s => s
  | j => j.literal

end Json

end TransitKit
