/-!
# Blanks

The blank characters of Unicode text: the characters of bidirectional class `WS`, `B`
or `S`, or of general category `Zs` (Unicode 14.0). Splitting a text into words cuts
at runs of blanks and drops blanks at both ends; stripping removes blanks at the ends.
-/

namespace TransitKit.Text

/-- The blank code points, as inclusive ranges. -/
def blankRanges : List (Nat × Nat) :=
  [(0x09, 0x0D), (0x1C, 0x20), (0x85, 0x85), (0xA0, 0xA0), (0x1680, 0x1680),
   (0x2000, 0x200A), (0x2028, 0x2029), (0x202F, 0x202F), (0x205F, 0x205F),
   (0x3000, 0x3000)]

/-- A character is blank. -/
def isBlank (c : Char) : Bool :=
  blankRanges.any fun r => r.1 ≤ c.toNat && c.toNat ≤ r.2

theorem isBlank_of_isWhitespace (c : Char) (h : c.isWhitespace = true) : isBlank c = true := by
  simp only [Char.isWhitespace, Bool.or_eq_true, decide_eq_true_eq] at h
  rcases h with ((h | h) | h) | h <;> subst h <;> decide

/-- The words of a character list: maximal runs without blanks, collected in reverse
into `acc` with the current run `cur` also reversed. -/
def wordsAux : List Char → List Char → List (List Char) → List (List Char)
  | [], cur, acc => (if cur.isEmpty then acc else cur.reverse :: acc).reverse
  | c :: cs, cur, acc =>
    if isBlank c then wordsAux cs [] (if cur.isEmpty then acc else cur.reverse :: acc)
    else wordsAux cs (c :: cur) acc

/-- The words of a text: the maximal runs of non-blank characters, in order. -/
def words (s : String) : List String := (wordsAux s.toList [] []).map String.ofList

/-- Joins texts with a separator between each two. -/
def joinWith (sep : String) (parts : List String) : String := sep.intercalate parts

/-- A text with blanks removed from both ends. -/
def stripBlanks (s : String) : String :=
  String.ofList ((s.toList.dropWhile isBlank).reverse.dropWhile isBlank).reverse

/-- A text with the given characters removed from both ends. -/
def stripChars (cs : List Char) (s : String) : String :=
  String.ofList ((s.toList.dropWhile (· ∈ cs)).reverse.dropWhile (· ∈ cs)).reverse

/-- A text with the given characters removed from its start. -/
def stripCharsLeft (cs : List Char) (s : String) : String :=
  String.ofList (s.toList.dropWhile (· ∈ cs))

/-- A text with the given characters removed from its end. -/
def stripCharsRight (cs : List Char) (s : String) : String :=
  String.ofList (s.toList.reverse.dropWhile (· ∈ cs)).reverse

/-- A text with blanks removed from its start. -/
def stripBlanksLeft (s : String) : String := String.ofList (s.toList.dropWhile isBlank)

/-- A text with blanks removed from its end. -/
def stripBlanksRight (s : String) : String :=
  String.ofList (s.toList.reverse.dropWhile isBlank).reverse

/-- Words separated by single spaces: every run of blanks collapsed, ends trimmed. -/
def collapseBlanks (s : String) : String := joinWith " " (words s)

theorem wordsAux_append_blank (cs cur : List Char) (acc : List (List Char)) (b : Char)
    (hb : isBlank b = true) : wordsAux (cs ++ [b]) cur acc = wordsAux cs cur acc := by
  induction cs generalizing cur acc with
  | nil => simp [wordsAux, hb]
  | cons c cs ih => simp only [List.cons_append, wordsAux]; split <;> exact ih _ _

theorem words_append_blank (s : String) (b : Char) (hb : isBlank b = true) :
    words (s.push b) = words s := by
  simp [words, String.toList_push, wordsAux_append_blank _ _ _ _ hb]

end TransitKit.Text
