/-!
# Newlines of text files

A text file read back in text mode has its line ends translated: a carriage return followed by a
line feed, and a carriage return alone, each become one line feed. Generated files are compared
as they read back, so their texts pass through `readBack`; a text without carriage returns reads
back unchanged.
-/

namespace TransitKit.Text

/-- The characters of a text after line ends are translated to line feeds. -/
def readBackChars : List Char → List Char
  | [] => []
  | '\r' :: '\n' :: rest => '\n' :: readBackChars rest
  | '\r' :: rest => '\n' :: readBackChars rest
  | c :: rest => c :: readBackChars rest

/-- A text as it reads back from a file in text mode. -/
def readBack (s : String) : String := String.ofList (readBackChars s.toList)

theorem readBackChars_lf_free (cs : List Char) (h : '\r' ∉ cs) : readBackChars cs = cs := by
  induction cs using readBackChars.induct with
  | case1 => rfl
  | case2 rest _ => simp at h
  | case3 rest _ _ => simp at h
  | case4 c rest h1 h2 ih =>
    simp only [List.mem_cons, not_or] at h
    rw [readBackChars, ih h.2]
    · exact h1
    · exact h2

end TransitKit.Text
