/-!
# Pieces of texts

Texts cut at a separator of one or two characters, the piece after the last separator, and
texts with a pattern replaced from left to right without overlaps, read over their characters.
A text with `n` separators has `n + 1` pieces, and an empty pattern is put before every
character and at the end.
-/

namespace TransitKit.Text

/-- The pieces of a text between the occurrences of a character. -/
def splitAt (c : Char) (s : String) : List String := (s.toList.splitOn c).map String.ofList

/-- The pieces of a list of characters between the occurrences of the pair `a b`, found from the
left without overlaps. -/
def pairPieces (a b : Char) : List Char → List (List Char)
  | [] => [[]]
  | [c] => [[c]]
  | c :: d :: rest =>
    if c = a ∧ d = b then [] :: pairPieces a b rest
    else (pairPieces a b (d :: rest)).modifyHead (c :: ·)

/-- The pieces of a text between the occurrences of a separator of two characters. -/
def splitAtPair (a b : Char) (s : String) : List String := (pairPieces a b s.toList).map String.ofList

/-- The piece of a text after the last occurrence of a character. -/
def lastPiece (c : Char) (s : String) : String :=
  String.ofList (s.toList.reverse.takeWhile (· != c)).reverse

/-- Whether a text holds a character. -/
def hasChar (s : String) (c : Char) : Bool := s.toList.contains c

/-- Whether a list of characters holds a pattern as a run of consecutive characters. -/
def holdsRun (pat : List Char) : List Char → Bool
  | [] => pat.isEmpty
  | c :: cs => pat.isPrefixOf (c :: cs) || holdsRun pat cs

/-- Whether a text holds a pattern. -/
def holdsText (s pat : String) : Bool := holdsRun pat.toList s.toList

/-- Replaces the occurrences of a non-empty pattern in characters, after skipping `skip`
characters that belong to an occurrence already replaced. -/
def replaceFrom (pat rep : List Char) : Nat → List Char → List Char
  | _, [] => []
  | 0, c :: cs =>
    if pat.isPrefixOf (c :: cs) then rep ++ replaceFrom pat rep (pat.length - 1) cs
    else c :: replaceFrom pat rep 0 cs
  | k + 1, _ :: cs => replaceFrom pat rep k cs

/-- A text with every occurrence of a pattern replaced. -/
def replaceAll (s pat rep : String) : String :=
  if pat.isEmpty then String.ofList (rep.toList ++ s.toList.flatMap fun c => c :: rep.toList)
  else String.ofList (replaceFrom pat.toList rep.toList 0 s.toList)

@[simp] theorem toList_lastPiece (c : Char) (s : String) :
    (lastPiece c s).toList = (s.toList.reverse.takeWhile (· != c)).reverse := by
  simp [lastPiece]

theorem hasChar_iff (s : String) (c : Char) : hasChar s c = true ↔ c ∈ s.toList := by
  simp [hasChar]

end TransitKit.Text
