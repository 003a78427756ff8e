import TransitKit.Text.Blank
import TransitKit.Text.CaseMap

/-!
# Release versions

A release version (PEP 440) is an optional epoch `N!`, a release `N(.N)*`, and optional
pre-release (`a`, `b`, `rc` and their spellings `alpha`, `beta`, `c`, `pre`,
`preview`), post-release (`.postN`, `-N`, `rev`, `r`), development (`.devN`) and local
(`+label`) parts. Letters match without regard to case; separators `-`, `_`, `.` are
optional; a missing number is zero; blanks around the version are allowed.

Versions are ordered by epoch, then release with trailing zeros removed, then
pre-release (a version with only a development part comes before its pre-releases, one
without pre-release after them), post-release (none first), development (none last) and
local label (none first; numbers after words).
-/

namespace TransitKit.Release

open Text

/-- A part of a local label: a number or a lower-case word. -/
inductive LocalPart where
  | number (n : Nat)
  | word (s : String)
deriving DecidableEq

/-- A parsed version. The labels of the pre-release, post-release and development parts
are kept in their normal spelling (`a`, `b`, `rc`, `post`, `dev`). -/
structure Version where
  epoch : Nat := 0
  release : List Nat
  pre : Option (String × Nat) := none
  post : Option (String × Nat) := none
  dev : Option (String × Nat) := none
  localLabel : Option (List LocalPart) := none

/-- The message of a text that is not a version. -/
def invalidVersion (s : String) : String := "Invalid version: '" ++ s ++ "'"

/-! ## Reading -/

/-- A character matches a lower-case ASCII letter without regard to case. Besides the
upper-case letter, the dotted and dotless `i` match `i`, the long `s` matches `s` and the
Kelvin sign matches `k`. -/
def matchesLetter (l c : Char) : Bool :=
  c == l || c == l.toUpper ||
    (l == 'i' && (c.toNat == 0x130 || c.toNat == 0x131)) ||
    (l == 's' && c.toNat == 0x17F) || (l == 'k' && c.toNat == 0x212A)

/-- Matches a word without regard to case: the characters matched and the rest. -/
def matchWord : List Char → List Char → Option (List Char × List Char)
  | [], cs => some ([], cs)
  | w :: ws, c :: cs => if matchesLetter w c then (matchWord ws cs).map fun (m, r) => (c :: m, r) else none
  | _ :: _, [] => none

/-- The first of some words that matches, as written, and the rest. -/
def matchFirst (words : List String) (cs : List Char) : Option (String × List Char) :=
  words.findSome? fun w => (matchWord w.toList cs).map fun (m, r) => (String.ofList m, r)

/-- A separator between parts. -/
def isSeparator (c : Char) : Bool := c == '-' || c == '_' || c == '.'

/-- Drops one separator, if there is one. -/
def dropSeparator : List Char → List Char
  | c :: rest => if isSeparator c then rest else c :: rest
  | [] => []

/-- A run of ASCII digits and the rest. -/
def digitRun (cs : List Char) : List Char × List Char :=
  (cs.takeWhile Char.isDigit, cs.dropWhile Char.isDigit)

/-- The value of ASCII digits. -/
def digitsValue (ds : List Char) : Nat :=
  ds.foldl (fun acc d => acc * 10 + (d.toNat - '0'.toNat)) 0

/-- The numbers after the first of a release, each after a dot. -/
def releaseRest : Nat → List Char → List Nat × List Char
  | 0, cs => ([], cs)
  | fuel + 1, '.' :: c :: more =>
    if c.isDigit then
      let (ds, r) := digitRun (c :: more)
      let (ns, r') := releaseRest fuel r
      (digitsValue ds :: ns, r')
    else ([], '.' :: c :: more)
  | _ + 1, cs => ([], cs)

/-- A lettered part: an optional separator, a label, an optional separator and optional
digits. The label as written and the number, if any, are returned. -/
def letteredPart (labels : List String) (cs : List Char) : Option ((String × Option Nat) × List Char) := do
  let (l, r) ← matchFirst labels (dropSeparator cs)
  let (ds, r) := digitRun (dropSeparator r)
  some ((l, if ds.isEmpty then none else some (digitsValue ds)), r)

/-- The spellings of pre-release labels, in the order they are tried. -/
def preLabels : List String := ["alpha", "a", "beta", "b", "preview", "pre", "c", "rc"]

/-- The spellings of post-release labels, in the order they are tried. -/
def postLabels : List String := ["post", "rev", "r"]

/-- The normal spelling of a label: lower case, with the alternative spellings
replaced. -/
def normalLabel (l : String) : String :=
  let l := lowerText l
  if l == "alpha" then "a" else if l == "beta" then "b"
  else if l == "c" || l == "pre" || l == "preview" then "rc"
  else if l == "rev" || l == "r" then "post" else l

/-- A post-release part: `-N`, or a lettered part. -/
def postPart (cs : List Char) : Option ((String × Option Nat) × List Char) :=
  match cs with
  | '-' :: c :: more =>
    if c.isDigit then
      let (ds, r) := digitRun (c :: more)
      some (("post", some (digitsValue ds)), r)
    else letteredPart postLabels cs
  | _ => letteredPart postLabels cs

/-- A character of a local label: an ASCII letter or digit (letters in any case). -/
def isLabelChar (c : Char) : Bool :=
  c.isDigit || c.isLower || c.isUpper || c.toNat == 0x130 || c.toNat == 0x131 ||
    c.toNat == 0x17F || c.toNat == 0x212A

/-- The segments of a local label after the first, each after a separator. -/
def labelRest : Nat → List Char → List (List Char) × List Char
  | 0, cs => ([], cs)
  | fuel + 1, s :: c :: more =>
    if isSeparator s && isLabelChar c then
      let seg := (c :: more).takeWhile isLabelChar
      let (segs, r) := labelRest fuel ((c :: more).dropWhile isLabelChar)
      (seg :: segs, r)
    else ([], s :: c :: more)
  | _ + 1, cs => ([], cs)

/-- A local label after `+`: its segments and the rest. -/
def localPart : List Char → Option (List (List Char) × List Char)
  | '+' :: c :: more =>
    if isLabelChar c then
      let seg := (c :: more).takeWhile isLabelChar
      let rest := (c :: more).dropWhile isLabelChar
      let (segs, r) := labelRest rest.length rest
      some (seg :: segs, r)
    else none
  | _ => none

/-- A segment of a local label as a part: a number when it is all digits, else a word in
lower case. -/
def LocalPart.ofSegment (seg : List Char) : LocalPart :=
  if seg.all Char.isDigit then .number (digitsValue seg) else .word (lowerText (String.ofList seg))

/-- Reads a version; blanks around it are allowed. -/
def Version.parse? (s : String) : Option Version := do
  let cs := s.toList.dropWhile isBlank
  let cs := match cs with
    | c :: r => if c == 'v' || c == 'V' then r else cs
    | [] => []
  let (d, r) := digitRun cs
  let (epoch, cs) := match r with
    | '!' :: more => if d.isEmpty then (0, cs) else (digitsValue d, more)
    | _ => (0, cs)
  let (first, r) := digitRun cs
  if first.isEmpty then none
  let (more, r) := releaseRest r.length r
  let (pre, r) := match letteredPart preLabels r with
    | some ((l, n), r') => (some (normalLabel l, n.getD 0), r')
    | none => (none, r)
  let (post, r) := match postPart r with
    | some ((l, n), r') => (some (normalLabel l, n.getD 0), r')
    | none => (none, r)
  let (dev, r) := match letteredPart ["dev"] r with
    | some ((l, n), r') => (some (normalLabel l, n.getD 0), r')
    | none => (none, r)
  let (label, r) := match localPart r with
    | some (segs, r') => (some (segs.map LocalPart.ofSegment), r')
    | none => (none, r)
  if !r.all isBlank then none
  some ⟨epoch, digitsValue first :: more, pre, post, dev, label⟩

/-! ## Order -/

/-- A value with a least and a greatest element added. -/
inductive Bounded (α : Type) where
  | bottom
  | value (a : α)
  | top

/-- The order of bounded values, by an order of the values. -/
def Bounded.cmp {α : Type} (c : α → α → Ordering) : Bounded α → Bounded α → Ordering
  | .bottom, .bottom => .eq
  | .bottom, _ => .lt
  | _, .bottom => .gt
  | .top, .top => .eq
  | .top, _ => .gt
  | _, .top => .lt
  | .value a, .value b => c a b

/-- The lexicographic order of lists, a proper prefix first. -/
def listCompare {α : Type} (c : α → α → Ordering) : List α → List α → Ordering
  | [], [] => .eq
  | [], _ :: _ => .lt
  | _ :: _, [] => .gt
  | a :: as, b :: bs => (c a b).then (listCompare c as bs)

/-- The order of a label and number. -/
def labelCompare (a b : String × Nat) : Ordering :=
  (compare a.1 b.1).then (compare a.2 b.2)

/-- The order of local parts: words before numbers. -/
def LocalPart.compare : LocalPart → LocalPart → Ordering
  | .number m, .number n => Ord.compare m n
  | .word s, .word t => Ord.compare s t
  | .word _, .number _ => .lt
  | .number _, .word _ => .gt

/-- The release with its trailing zeros removed. -/
def Version.trimmedRelease (v : Version) : List Nat := (v.release.reverse.dropWhile (· == 0)).reverse

/-- Where the pre-release part sorts: a version with only a development part sorts
before every pre-release, one without a pre-release part after them. -/
def Version.preKey (v : Version) : Bounded (String × Nat) :=
  match v.pre, v.post, v.dev with
  | none, none, some _ => .bottom
  | none, _, _ => .top
  | some p, _, _ => .value p

/-- Where the post-release part sorts: none first. -/
def Version.postKey (v : Version) : Bounded (String × Nat) :=
  match v.post with
  | none => .bottom
  | some p => .value p

/-- Where the development part sorts: none last. -/
def Version.devKey (v : Version) : Bounded (String × Nat) :=
  match v.dev with
  | none => .top
  | some d => .value d

/-- Where the local label sorts: none first. -/
def Version.localKey (v : Version) : Bounded (List LocalPart) :=
  match v.localLabel with
  | none => .bottom
  | some l => .value l

/-- The order of versions. -/
def Version.compare (a b : Version) : Ordering :=
  (Ord.compare a.epoch b.epoch).then <|
  (listCompare Ord.compare a.trimmedRelease b.trimmedRelease).then <|
  (Bounded.cmp labelCompare a.preKey b.preKey).then <|
  (Bounded.cmp labelCompare a.postKey b.postKey).then <|
  (Bounded.cmp labelCompare a.devKey b.devKey).then <|
  Bounded.cmp (listCompare LocalPart.compare) a.localKey b.localKey

end TransitKit.Release
