import TransitKit.Text.Blank
import TransitKit.Json.Writer

/-!
# Descriptions in generated source

A description from an API document becomes one line of generated source: its words
separated by single spaces, with blanks at the ends removed. Inside a quoted
`description="…"` argument it is further escaped as a JSON string body, so that quotes,
backslashes and characters outside ASCII survive as escapes.
-/

namespace TransitKit.Codegen

open Text

/-- A description as one line of words separated by single spaces. -/
def normalizeDescription (d : String) : String := collapseBlanks d

/-- A description escaped for a double-quoted argument: the JSON string body of its
normalised form, ASCII only. -/
def escapeDescription (d : String) : String :=
  let n := normalizeDescription d
  String.join (n.toList.map (jsonEscapeChar true))

end TransitKit.Codegen
