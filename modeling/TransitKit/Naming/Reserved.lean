/-!
# Reserved words of the generated language

The generated source is Python 3.11; these are its hard keywords, which no generated
class, field, method or member name may equal.
-/

namespace TransitKit.Naming

/-- The hard keywords of the generated language. -/
def reservedWords : List String :=
  ["False", "None", "True", "and", "as", "assert", "async", "await", "break", "class",
   "continue", "def", "del", "elif", "else", "except", "finally", "for", "from", "global",
   "if", "import", "in", "is", "lambda", "nonlocal", "not", "or", "pass", "raise",
   "return", "try", "while", "with", "yield"]

/-- A word is reserved. -/
def isReserved (s : String) : Bool := reservedWords.contains s

theorem reserved_length : reservedWords.length = 35 := rfl

end TransitKit.Naming
